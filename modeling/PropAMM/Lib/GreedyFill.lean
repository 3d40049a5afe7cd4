import Mathlib.Algebra.Order.BigOperators.Group.List
import Mathlib.Algebra.Order.Field.Rat
import Mathlib.Tactic.Ring
import Mathlib.Tactic.Linarith

/-! # Greedy filling

Offers taken in order, each up to its capacity, until an amount is used up; and
what an assignment of the amount is worth at a rate per offer.
-/

namespace Greedy

variable {α : Type}

/-- Take from each offer what it can hold of what is left. -/
def fill (cap : α → ℕ) : List α → ℕ → List (α × ℕ)
  | [], _ => []
  | a :: as, amount => (a, min (cap a) amount) :: fill cap as (amount - min (cap a) amount)

def assigned (p : List (α × ℕ)) : ℕ := (p.map Prod.snd).sum

@[simp] theorem assigned_nil : assigned ([] : List (α × ℕ)) = 0 := rfl

@[simp] theorem assigned_cons (a : α) (n : ℕ) (p : List (α × ℕ)) :
    assigned ((a, n) :: p) = n + assigned p := rfl

section Fill

variable (cap : α → ℕ)

@[simp] theorem fill_nil (amount : ℕ) : fill cap [] amount = [] := rfl

theorem fill_cons (a : α) (as : List α) (amount : ℕ) :
    fill cap (a :: as) amount = (a, min (cap a) amount) :: fill cap
      as (amount - min (cap a) amount) := rfl

@[simp] theorem map_fst_fill (as : List α) (amount : ℕ) :
    (fill cap as amount).map Prod.fst = as := by
  induction as generalizing amount with
  | nil => rfl
  | cons a as ih => rw [fill_cons, List.map_cons, ih]

/-- Everything is used, or every offer is full. -/
theorem assigned_fill (as : List α) (amount : ℕ) :
    assigned (fill cap as amount) = min (as.map cap).sum amount := by
  induction as generalizing amount with
  | nil => simp
  | cons a as ih =>
      rw [fill_cons, assigned_cons, ih, List.map_cons, List.sum_cons]
      omega

theorem assigned_fill_le (as : List α) (amount : ℕ) : assigned (fill cap as amount) ≤ amount := by
  rw [assigned_fill]
  exact min_le_right _ _

theorem fill_append (as bs : List α) (amount : ℕ) :
    fill cap (as ++ bs) amount =
      fill cap as amount ++ fill cap bs (amount - assigned (fill cap as amount)) := by
  induction as generalizing amount with
  | nil => simp
  | cons a as ih =>
      rw [List.cons_append, fill_cons, fill_cons, ih, List.cons_append, assigned_cons, Nat.sub_sub]

theorem le_cap_of_mem_fill {as : List α} {amount : ℕ} {p : α × ℕ} (h : p ∈ fill cap as amount) :
    p.2 ≤ cap p.1 := by
  induction as generalizing amount with
  | nil => cases h
  | cons a as ih =>
      rcases List.mem_cons.mp h with rfl | rest
      · exact min_le_left _ _
      · exact ih rest

/-- As long as something is left, every offer was filled. -/
theorem full_of_assigned_lt {as : List α} {amount : ℕ}
    (left : assigned (fill cap as amount) < amount) {q : α × ℕ} (h : q ∈ fill cap as amount) :
    q.2 = cap q.1 := by
  induction as generalizing amount with
  | nil => cases h
  | cons a as ih =>
      rw [fill_cons, assigned_cons] at left
      rcases List.mem_cons.mp h with rfl | rest
      · exact min_eq_left (by omega)
      · exact ih (by omega) rest

/-- When each offer got something, only the last can be short, and then nothing is left. -/
theorem full_but_last {as : List α} {amount : ℕ} (positive : ∀ q ∈ fill cap as amount, 0 < q.2)
    {init : List (α × ℕ)} {last : α × ℕ} (shape : fill cap as amount = init ++ [last]) :
    (∀ q ∈ init, q.2 = cap q.1) ∧
      (last.2 = cap last.1 ∨ last.2 < cap last.1 ∧ assigned (fill cap as amount) = amount) := by
  have fsts := congrArg (List.map Prod.fst) shape
  rw [map_fst_fill, List.map_append, List.map_singleton] at fsts
  have split := shape
  rw [fsts, fill_append, fill_cons, fill_nil] at split
  obtain ⟨front, back⟩ := List.append_inj_left' split rfl, List.append_inj_right' split rfl
  rw [front] at back
  have took : last = (last.1, min (cap last.1) (amount - assigned init)) :=
    (List.singleton_inj.mp back).symm
  have given : last.2 = min (cap last.1) (amount - assigned init) := congrArg Prod.snd took
  have some : 0 < last.2 := positive last (by rw [shape]; simp)
  constructor
  · intro q member
    rw [← front] at member
    apply full_of_assigned_lt cap _ member
    rw [front]
    omega
  · rcases Nat.lt_or_ge (amount - assigned init) (cap last.1) with short | enough
    · right
      have total : assigned (fill cap as amount) = assigned init + last.2 := by
        rw [shape, assigned, List.map_append, List.sum_append]
        simp [assigned]
      omega
    · left
      omega

end Fill

/-! ## Worth -/

section Worth

variable (rate : α → ℚ)

def worth (p : List (α × ℕ)) : ℚ := (p.map fun q => rate q.1 * q.2).sum

@[simp] theorem worth_nil : worth rate [] = 0 := rfl

@[simp] theorem worth_cons (q : α × ℕ) (p : List (α × ℕ)) :
    worth rate (q :: p) = rate q.1 * q.2 + worth rate p := by
  simp [worth]

variable {rate} {ρ : ℚ}

/-- Offers no worse than `ρ` are together no worse than `ρ`. -/
theorem mul_assigned_le_worth {p : List (α × ℕ)} (h : ∀ q ∈ p, ρ ≤ rate q.1) :
    ρ * assigned p ≤ worth rate p := by
  induction p with
  | nil => simp
  | cons q p ih =>
      have rest := ih fun r member => h r (List.mem_cons_of_mem q member)
      have here : ρ * q.2 ≤ rate q.1 * q.2 :=
        mul_le_mul_of_nonneg_right (h q List.mem_cons_self) (Nat.cast_nonneg q.2)
      have total : ((assigned (q :: p) : ℕ) : ℚ) = q.2 + assigned p := by simp [assigned]
      rw [total, worth_cons, mul_add]
      linarith

/-- One better offer, actually used, makes them strictly better. -/
theorem mul_assigned_lt_worth {p : List (α × ℕ)} (used : p ≠ []) (h : ∀ q ∈ p, ρ < rate q.1)
    (positive : ∀ q ∈ p, 0 < q.2) : ρ * assigned p < worth rate p := by
  cases p with
  | nil => exact absurd rfl used
  | cons q p =>
      have rest : ρ * assigned p ≤ worth rate p :=
        mul_assigned_le_worth fun r member => (h r (List.mem_cons_of_mem q member)).le
      have here : ρ * q.2 < rate q.1 * q.2 :=
        mul_lt_mul_of_pos_right (h q List.mem_cons_self)
          (Nat.cast_pos.mpr (positive q List.mem_cons_self))
      have total : ((assigned (q :: p) : ℕ) : ℚ) = q.2 + assigned p := by simp [assigned]
      rw [total, worth_cons, mul_add]
      linarith

end Worth

/-! ## Optimality

A price per unit bounds every assignment by what it pays for the total and for
what each offer is worth above it; the greedy one meets the bound.
-/

section Optimality

variable (rate : α → ℚ) (cap : α → ℕ)

/-- What an assignment by any rational parts is worth. -/
def value (p : List (α × ℚ)) : ℚ := (p.map fun q => rate q.1 * q.2).sum

def total (p : List (α × ℚ)) : ℚ := (p.map Prod.snd).sum

/-- What the offers are worth above the price when full. -/
def surplus (ρ : ℚ) (as : List α) : ℚ := (as.map fun a => max (rate a - ρ) 0 * cap a).sum

/-- No offer is given less than nothing or more than it can hold. -/
def Within (p : List (α × ℚ)) : Prop := ∀ q ∈ p, 0 ≤ q.2 ∧ q.2 ≤ cap q.1

variable {rate cap} {ρ : ℚ}

theorem surplus_perm {as bs : List α} (perm : as.Perm bs) :
    surplus rate cap ρ as = surplus rate cap ρ bs :=
  (perm.map _).sum_eq

theorem surplus_append (as bs : List α) :
    surplus rate cap ρ (as ++ bs) = surplus rate cap ρ as + surplus rate cap ρ bs := by
  simp [surplus]

theorem surplus_eq_zero {as : List α} (below : ∀ a ∈ as, rate a ≤ ρ) :
    surplus rate cap ρ as = 0 := by
  induction as with
  | nil => rfl
  | cons a as ih =>
      have here : rate a ≤ ρ := below a List.mem_cons_self
      have rest := ih fun b member => below b (List.mem_cons_of_mem a member)
      rw [surplus, List.map_cons, List.sum_cons, max_eq_right (by linarith), zero_mul, zero_add]
      exact rest

/-- Weak duality, at any price. -/
theorem value_le {p : List (α × ℚ)} (within : Within cap p) :
    value rate p ≤ ρ * total p + surplus rate cap ρ (p.map Prod.fst) := by
  induction p with
  | nil => simp [value, total, surplus]
  | cons q p ih =>
      have rest := ih fun r member => within r (List.mem_cons_of_mem q member)
      obtain ⟨nonneg, le⟩ := within q List.mem_cons_self
      have here : (rate q.1 - ρ) * q.2 ≤ max (rate q.1 - ρ) 0 * cap q.1 :=
        calc (rate q.1 - ρ) * q.2 ≤ max (rate q.1 - ρ) 0 * q.2 :=
              mul_le_mul_of_nonneg_right (le_max_left _ _) nonneg
          _ ≤ max (rate q.1 - ρ) 0 * cap q.1 := mul_le_mul_of_nonneg_left le (le_max_right _ _)
      simp only [value, total, surplus, List.map_cons, List.sum_cons] at rest ⊢
      linarith

/-- An assignment meets the bound when what is above the price is full and nothing below
    it is used. -/
theorem worth_eq {p : List (α × ℕ)}
    (tight : ∀ q ∈ p, ρ ≤ rate q.1 ∧ (rate q.1 = ρ ∨ q.2 = cap q.1)) :
    worth rate p = ρ * assigned p + surplus rate cap ρ (p.map Prod.fst) := by
  induction p with
  | nil => simp [surplus]
  | cons q p ih =>
      have rest := ih fun r member => tight r (List.mem_cons_of_mem q member)
      obtain ⟨above, priced_or_full⟩ := tight q List.mem_cons_self
      have here : rate q.1 * q.2 = ρ * q.2 + max (rate q.1 - ρ) 0 * cap q.1 := by
        rw [max_eq_left (by linarith)]
        rcases priced_or_full with priced | full
        · rw [priced]
          ring
        · rw [← full]
          ring
      have sum : ((assigned (q :: p) : ℕ) : ℚ) = q.2 + assigned p := by simp [assigned]
      rw [worth_cons, here, rest, sum]
      simp only [surplus, List.map_cons, List.sum_cons]
      ring

/-- The rate of the last offer that was used prices a greedy assignment. -/
theorem exists_price {as rest : List α} {amount : ℕ}
    (ranked : (as ++ rest).Pairwise fun a b => rate b ≤ rate a)
    (positive : ∀ q ∈ fill cap as amount, 0 < q.2) : ∃ ρ : ℚ,
      (∀ q ∈ fill cap as amount, ρ ≤ rate q.1 ∧ (rate q.1 = ρ ∨ q.2 = cap q.1)) ∧
        ∀ a ∈ rest, rate a ≤ ρ := by
  obtain ⟨front, back, across⟩ := List.pairwise_append.mp ranked
  rcases List.eq_nil_or_concat' as with rfl | ⟨init, last, rfl⟩
  · cases rest with
    | nil => exact ⟨0, by simp, by simp⟩
    | cons a rest =>
        refine ⟨rate a, by simp, ?_⟩
        intro b member
        rcases List.mem_cons.mp member with rfl | later
        · exact le_rfl
        · exact (List.pairwise_cons.mp back).1 b later
  · have shape : fill cap (init ++ [last]) amount = fill cap init amount ++
        [(last, min (cap last) (amount - assigned (fill cap init amount)))] := by
      rw [fill_append, fill_cons, fill_nil]
    obtain ⟨full, _⟩ := full_but_last cap positive shape
    refine ⟨rate last, ?_, fun a member => across last (by simp) a member⟩
    intro q member
    rw [shape] at member
    rcases List.mem_append.mp member with early | final
    · have offered : q.1 ∈ init := by
        rw [← map_fst_fill cap init amount]
        exact List.mem_map_of_mem early
      exact ⟨(List.pairwise_append.mp front).2.2 q.1 offered last (by simp), .inr (full q early)⟩
    · rw [List.mem_singleton.mp final]
      exact ⟨le_rfl, .inl rfl⟩

/-- No assignment of the same total to any of the ranked offers is worth more. -/
theorem value_le_worth {as rest : List α} {amount : ℕ}
    (ranked : (as ++ rest).Pairwise fun a b => rate b ≤ rate a)
    (positive : ∀ q ∈ fill cap as amount, 0 < q.2) {p : List (α × ℚ)} (within : Within cap p)
    (offers : (p.map Prod.fst).Perm (as ++ rest)) (same : total p = assigned (fill cap as amount)) :
    value rate p ≤ worth rate (fill cap as amount) := by
  obtain ⟨ρ, tight, below⟩ := exists_price ranked positive
  calc value rate p ≤ ρ * total p + surplus rate cap ρ (p.map Prod.fst) := value_le within
    _ = ρ * assigned (fill cap as amount) + surplus rate cap ρ as := by
        rw [same, surplus_perm offers, surplus_append, surplus_eq_zero below, add_zero]
    _ = worth rate (fill cap as amount) := by
        rw [worth_eq tight, map_fst_fill]

end Optimality

end Greedy
