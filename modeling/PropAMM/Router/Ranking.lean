import PropAMM.Lib.InsertionSort
import PropAMM.Router.SplitPlanner
import Mathlib.Tactic.Linarith
import Mathlib.Tactic.Ring

/-! # Ranking without overflow

On priced candidates no comparison overflows, the comparison is a strict weak
order refining the exact rates, and the in-place sort computes the insertion
from the right of `PropAMM.Lib.InsertionSort`.
-/

namespace PropAMM

/-- The bounds every gathered candidate meets. -/
structure Priced (c : Candidate) : Prop where
  fill_pos : 0 < c.fill
  fill_le : c.fill ≤ maxU128
  out_pos : 0 < c.out
  out_le : c.out ≤ maxU128

theorem Priced.of_terms {venue : Address} {fill out : Nat}
    (bounds : 0 < fill ∧ fill ≤ maxU128 ∧ 0 < out ∧ out ≤ maxU128) : Priced ⟨venue, fill, out⟩ :=
  ⟨bounds.1, bounds.2.1, bounds.2.2.1, bounds.2.2.2⟩

theorem mul_fits {a b : Nat} (ha : a ≤ maxU128) (hb : b ≤ maxU128) : a * b < 2 ^ 256 := by
  have product : a * b ≤ maxU128 * maxU128 := Nat.mul_le_mul ha hb
  have square : maxU128 * maxU128 < 2 ^ 256 := by decide
  omega

namespace SplitPlanner

/-- The verdict of `betterThan`. -/
def beats (a b : Candidate) : Bool :=
  if a.out * b.fill ≠ b.out * a.fill then a.out * b.fill > b.out * a.fill else a.fill > b.fill

theorem betterThan_ok {a b : Candidate} (ha : Priced a) (hb : Priced b) :
    betterThan a b = .ok (beats a b) := by
  have lhs := checkedMul_ok (mul_fits ha.out_le hb.fill_le)
  have rhs := checkedMul_ok (mul_fits hb.out_le ha.fill_le)
  unfold betterThan beats
  rw [lhs, rhs]
  show (if _ then _ else _ : Checked Bool) = _
  split <;> rfl

theorem beats_iff {a b : Candidate} :
    beats a b = true ↔ b.out * a.fill < a.out * b.fill ∨
      b.out * a.fill = a.out * b.fill ∧ b.fill < a.fill := by
  unfold beats
  split
  · rw [decide_eq_true_iff]
    omega
  · rw [decide_eq_true_iff]
    omega

theorem not_beats_iff {a b : Candidate} :
    beats a b = false ↔ a.out * b.fill < b.out * a.fill ∨
      a.out * b.fill = b.out * a.fill ∧ a.fill ≤ b.fill := by
  rw [← Bool.not_eq_true, beats_iff]
  omega

theorem beats_asymm {a b : Candidate} (h : beats a b = true) : beats b a = false := by
  rw [beats_iff] at h
  rw [not_beats_iff]
  omega

theorem beats_irrefl (a : Candidate) : beats a a = false :=
  not_beats_iff.mpr (.inr ⟨rfl, Nat.le_refl _⟩)

/-- Exact rates compose across a middle candidate. -/
theorem rate_trans {a b c : Candidate} (hb : 0 < b.fill) (hab : b.out * a.fill ≤ a.out * b.fill)
    (hbc : c.out * b.fill ≤ b.out * c.fill) : c.out * a.fill ≤ a.out * c.fill := by
  apply Nat.le_of_mul_le_mul_right _ hb
  calc c.out * a.fill * b.fill = c.out * b.fill * a.fill := by ring
    _ ≤ b.out * c.fill * a.fill := Nat.mul_le_mul_right _ hbc
    _ = b.out * a.fill * c.fill := by ring
    _ ≤ a.out * b.fill * c.fill := Nat.mul_le_mul_right _ hab
    _ = a.out * c.fill * b.fill := by ring

theorem rate_trans_lt {a b c : Candidate} (ha : 0 < a.fill) (hc : 0 < c.fill)
    (hab : b.out * a.fill ≤ a.out * b.fill) (hbc : c.out * b.fill ≤ b.out * c.fill)
    (strict : b.out * a.fill < a.out * b.fill ∨ c.out * b.fill < b.out * c.fill) :
    c.out * a.fill < a.out * c.fill := by
  apply Nat.lt_of_mul_lt_mul_right (a := b.fill)
  have left : c.out * b.fill * a.fill ≤ b.out * c.fill * a.fill := Nat.mul_le_mul_right _ hbc
  have right : b.out * a.fill * c.fill ≤ a.out * b.fill * c.fill := Nat.mul_le_mul_right _ hab
  rcases strict with strict | strict
  · have : b.out * a.fill * c.fill < a.out * b.fill * c.fill :=
      Nat.mul_lt_mul_of_pos_right strict hc
    linarith
  · have : c.out * b.fill * a.fill < b.out * c.fill * a.fill :=
      Nat.mul_lt_mul_of_pos_right strict ha
    linarith

theorem beats_negTrans {a b c : Candidate} (ha : 0 < a.fill) (hb : 0 < b.fill) (hc : 0 < c.fill)
    (hba : beats b a = false) (hcb : beats c b = false) : beats c a = false := by
  rw [not_beats_iff] at hba hcb ⊢
  have weak := rate_trans hb (a := a) (b := b) (c := c) (by omega) (by omega)
  by_cases strict : b.out * a.fill < a.out * b.fill ∨ c.out * b.fill < b.out * c.fill
  · exact .inl (rate_trans_lt ha hc (by omega) (by omega) strict)
  · omega

/-- The earlier of two ranked candidates has the better rate. -/
theorem rate_le_of_not_beats {a b : Candidate} (h : beats b a = false) :
    b.out * a.fill ≤ a.out * b.fill := by
  rw [not_beats_iff] at h
  omega

/-- Two candidates neither of which beats the other. -/
theorem terms_of_not_beats {c d : Candidate} (hc : 0 < c.fill) (first : beats d c = false)
    (second : beats c d = false) :
    c.out * d.fill = d.out * c.fill ∧ c.fill = d.fill ∧ c.out = d.out := by
  rw [not_beats_iff] at first second
  have rate : c.out * d.fill = d.out * c.fill := by omega
  have fill : c.fill = d.fill := by omega
  refine ⟨rate, fill, ?_⟩
  rw [← fill] at rate
  exact Nat.eq_of_mul_eq_mul_right hc rate

/-! ## The in-place sort -/

theorem readAt_length (pre : List Candidate) (a : Candidate) (post : List Candidate) :
    readAt (pre ++ a :: post) pre.length = .ok a := by
  simp [readAt]

theorem writeAt_length (pre : List Candidate) (a b : Candidate) (post : List Candidate) :
    writeAt (pre ++ a :: post) pre.length b = .ok (pre ++ b :: post) := by
  simp [writeAt]

/-- The shifted array with the key written back is the key inserted from the right.
    `x` is the slot the key was read from, overwritten either way. -/
theorem shiftDown_ok {key : Candidate} (keyed : Priced key) (pre : List Candidate)
    (all : ∀ a ∈ pre, Priced a) (x : Candidate) (post : List Candidate) :
    ∃ j c, shiftDown key pre.length (pre ++ x :: post) = .ok (j, c) ∧
      writeAt c j key = .ok (pre.insertRight beats key ++ post) := by
  induction pre using List.reverseRecOn generalizing x post with
  | nil => exact ⟨0, x :: post, rfl, rfl⟩
  | append_singleton pre last ih =>
      have front : ∀ a ∈ pre, Priced a := fun a member => all a (by simp [member])
      have lastP : Priced last := all last (by simp)
      have shape : pre ++ [last] ++ x :: post = pre ++ last :: (x :: post) := by simp
      have read := readAt_length pre last (x :: post)
      rw [List.length_append, List.length_singleton, shape]
      simp only [shiftDown, read, ok_bind, betterThan_ok keyed lastP]
      cases beaten : beats key last with
      | true =>
          have moved := writeAt_length (pre ++ [last]) x last post
          rw [List.length_append, List.length_singleton, shape] at moved
          obtain ⟨j, c, shifted, written⟩ := ih front last (last :: post)
          refine ⟨j, c, ?_, ?_⟩
          · rw [if_pos rfl, moved, ok_bind, List.append_assoc, List.singleton_append]
            exact shifted
          · rw [written, List.insertRight_concat_of_beaten beats beaten, List.append_assoc,
              List.singleton_append]
      | false =>
          refine ⟨pre.length + 1, pre ++ last :: x :: post, rfl, ?_⟩
          have written := writeAt_length (pre ++ [last]) x key post
          rw [List.length_append, List.length_singleton, shape] at written
          rw [written, List.insertRight_concat_of_unbeaten beats beaten,
            List.append_assoc (pre ++ [last]), List.singleton_append]

theorem sortLoop_ok (ranked keys : List Candidate) (all : ∀ a ∈ ranked, Priced a)
    (keyed : ∀ a ∈ keys, Priced a) :
    sortLoop keys.length ranked.length (ranked ++ keys) = .ok (ranked.insertAll beats keys) := by
  induction keys generalizing ranked with
  | nil => rw [List.append_nil]; rfl
  | cons key keys ih =>
      have keyP : Priced key := keyed key (by simp)
      have perm := List.insertRight_perm beats key ranked
      have size : (ranked.insertRight beats key).length = ranked.length + 1 := perm.length_eq
      have read := readAt_length ranked key keys
      obtain ⟨j, c, shifted, written⟩ := shiftDown_ok keyP ranked all key keys
      have step : sortLoop (key :: keys).length ranked.length (ranked ++ key :: keys) =
          sortLoop keys.length (ranked.length + 1) (ranked.insertRight beats key ++ keys) := by
        simp only [List.length_cons, sortLoop, read, ok_bind, shifted, written]
      rw [step, ← size]
      apply ih
      · intro a member
        rcases List.mem_cons.mp (perm.mem_iff.mp member) with rfl | old
        · exact keyP
        · exact all a old
      · intro a member
        exact keyed a (by simp [member])

/-- The pure outcome of `sortByRateDesc`. -/
def sorted (c : List Candidate) : List Candidate := [].insertAll beats c

theorem sortByRateDesc_ok {c : List Candidate} (priced : ∀ a ∈ c, Priced a) :
    sortByRateDesc c = .ok (sorted c) := by
  cases c with
  | nil => rfl
  | cons a rest =>
      have looped := sortLoop_ok [a] rest (by simpa using priced a (by simp))
        (fun b member => priced b (by simp [member]))
      exact looped

theorem sorted_perm (c : List Candidate) : (sorted c).Perm c := List.insertAll_perm beats [] c

theorem sorted_ranked {c : List Candidate} (priced : ∀ a ∈ c, Priced a) :
    (sorted c).Ranked beats := by
  apply List.Ranked.insertAll (P := Priced)
  · intro a b _ _ h
    exact beats_asymm h
  · intro a b c ha hb hc hba hcb
    exact beats_negTrans ha.fill_pos hb.fill_pos hc.fill_pos hba hcb
  · exact List.Pairwise.nil
  · simp
  · exact priced

/-- Candidates that do not beat each other keep the order they came in. -/
theorem sorted_filter {c : List Candidate} {p : Candidate → Bool}
    (unbeaten : ∀ a ∈ c, ∀ b ∈ c, p a = true → p b = true → beats a b = false) :
    (sorted c).filter p = c.filter p :=
  List.filter_insertAll unbeaten

theorem proRataMin_ok {out fill leg : Nat} (fill_pos : 0 < fill) (out_le : out ≤ maxU128)
    (leg_le : leg ≤ maxU128) : proRataMin out fill leg = .ok (out * leg / fill) := by
  unfold proRataMin
  by_cases whole : leg = fill
  · rw [if_pos whole, whole, Nat.mul_div_cancel _ fill_pos]
  · rw [if_neg whole, checkedMul_ok (mul_fits out_le leg_le)]
    exact checkedDiv_ok (Nat.ne_of_gt fill_pos)

end SplitPlanner

end PropAMM
