import Mathlib.Data.List.Induction

/-! # Scanning for the first maximum

A scan keeps the best valuation so far and replaces it only by a strictly better
one. Elements without a valuation are passed over, and so, in effect, are zeros
and repetitions.
-/

namespace FirstMax

variable {α : Type}

/-- One element of the scan. -/
def keep (q : α → Option Nat) (best : Nat × α) (a : α) : Nat × α :=
  match q a with
  | some n => if n > best.1 then (n, a) else best
  | none => best

def scan (q : α → Option Nat) (l : List α) (best : Nat × α) : Nat × α := l.foldl (keep q) best

/-- `best` is the maximum over the list and its first occurrence, or `(0, none)` when
    nothing on the list is worth anything. -/
def Chosen (q : α → Option Nat) (none : α) (l : List α) (best : Nat × α) : Prop :=
  (best = (0, none) ∧ ∀ a ∈ l, ∀ n, q a = some n → n = 0) ∨
    (0 < best.1 ∧ q best.2 = some best.1 ∧ (∀ a ∈ l, ∀ n, q a = some n → n ≤ best.1) ∧
      ∃ pre post, l = pre ++ best.2 :: post ∧ ∀ a ∈ pre, ∀ n, q a = some n → n < best.1)

section Scan

variable {q : α → Option Nat} {none : α}

theorem Chosen.bound {l : List α} {best : Nat × α} (h : Chosen q none l best) :
    ∀ a ∈ l, ∀ n, q a = some n → n ≤ best.1 := by
  rcases h with ⟨rfl, zero⟩ | ⟨_, _, bound, _⟩
  · intro a member n value
    exact Nat.le_of_eq (zero a member n value)
  · exact bound

/-- The scan's step lemma: the choice on a list stays right when one element is appended. -/
theorem Chosen.keep {l : List α} {best : Nat × α} (h : Chosen q none l best) (a : α) :
    Chosen q none (l ++ [a]) (keep q best a) := by
  have bound := h.bound
  unfold FirstMax.keep
  cases value : q a with
  | none =>
      -- Nothing to compare with.
      rcases h with ⟨rfl, zero⟩ | ⟨positive, attained, _, pre, post, split, before⟩
      · refine .inl ⟨rfl, fun b member n valued => ?_⟩
        rcases List.mem_append.mp member with old | single
        · exact zero b old n valued
        · rw [List.mem_singleton.mp single, value] at valued
          cases valued
      · refine .inr ⟨positive, attained, fun b member n valued => ?_, pre,
          post ++ [a], by simp [split], before⟩
        rcases List.mem_append.mp member with old | single
        · exact bound b old n valued
        · rw [List.mem_singleton.mp single, value] at valued
          cases valued
  | some m =>
      by_cases better : m > best.1
      · simp only [if_pos better]
        refine .inr ⟨Nat.lt_of_le_of_lt (Nat.zero_le _) better, value, fun b member n valued => ?_,
          l, [], rfl, fun b member n valued => Nat.lt_of_le_of_lt (bound b member n valued) better⟩
        rcases List.mem_append.mp member with old | single
        · exact Nat.le_of_lt (Nat.lt_of_le_of_lt (bound b old n valued) better)
        · rw [List.mem_singleton.mp single, value] at valued
          cases valued
          exact Nat.le_refl m
      · simp only [if_neg better]
        have small : m ≤ best.1 := Nat.le_of_not_gt better
        rcases h with ⟨rfl, zero⟩ | ⟨positive, attained, _, pre, post, split, before⟩
        · refine .inl ⟨rfl, fun b member n valued => ?_⟩
          rcases List.mem_append.mp member with old | single
          · exact zero b old n valued
          · rw [List.mem_singleton.mp single, value] at valued
            cases valued
            exact Nat.le_zero.mp small
        · refine .inr ⟨positive, attained, fun b member n valued => ?_, pre,
            post ++ [a], by simp [split], before⟩
          rcases List.mem_append.mp member with old | single
          · exact bound b old n valued
          · rw [List.mem_singleton.mp single, value] at valued
            cases valued
            exact small

theorem scan_append (l l' : List α) (best : Nat × α) :
    scan q (l ++ l') best = scan q l' (scan q l best) := List.foldl_append

theorem chosen_scan (l : List α) : Chosen q none l (scan q l (0, none)) := by
  induction l using List.reverseRecOn with
  | nil => exact .inl ⟨rfl, by simp⟩
  | append_singleton l a ih =>
      rw [scan_append]
      exact ih.keep a

/-- What the scan never moves from is worth nothing, as long as `none` is no candidate. -/
theorem Chosen.zero_iff {l : List α} {best : Nat × α} (h : Chosen q none l best)
    (fresh : none ∉ l) : best.2 = none ↔ best.1 = 0 := by
  rcases h with ⟨rfl, _⟩ | ⟨positive, _, _, pre, post, split, _⟩
  · simp
  · constructor
    · intro same
      rw [split, same] at fresh
      simp at fresh
    · intro zero
      omega

/-! ## What does not matter -/

theorem keep_of_le {best : Nat × α} {a : α} (h : (q a).getD 0 ≤ best.1) : keep q best a = best := by
  unfold keep
  cases value : q a with
  | none => rfl
  | some n =>
      rw [value, Option.getD_some] at h
      exact if_neg (Nat.not_lt_of_le h)

theorem le_keep (best : Nat × α) (a : α) :
    best.1 ≤ (keep q best a).1 ∧ (q a).getD 0 ≤ (keep q best a).1 := by
  unfold keep
  cases q a with
  | none => exact ⟨Nat.le_refl _, Nat.zero_le _⟩
  | some n =>
      rw [Option.getD_some]
      by_cases better : n > best.1
      · simp only [if_pos better]
        exact ⟨Nat.le_of_lt better, Nat.le_refl n⟩
      · simp only [if_neg better]
        exact ⟨Nat.le_refl _, Nat.le_of_not_gt better⟩

theorem scan_filter (l : List α) (best : Nat × α) :
    scan q (l.filter fun a => 0 < (q a).getD 0) best = scan q l best := by
  induction l generalizing best with
  | nil => rfl
  | cons a l ih =>
      by_cases worth : 0 < (q a).getD 0
      · rw [List.filter_cons_of_pos (by simpa using worth)]
        exact ih _
      · rw [List.filter_cons_of_neg (by simpa using worth), ih]
        show scan q l best = scan q l (keep q best a)
        rw [keep_of_le (by omega)]

variable [DecidableEq α]

/-- The elements worth something, each once, in order of first occurrence. -/
def considered (q : α → Option Nat) (l : List α) : List α :=
  (l.filter fun a => 0 < (q a).getD 0).eraseDups

/-- Once seen, an element cannot change the outcome again. -/
theorem scan_filter_ne (l : List α) (best : Nat × α) (a : α) (seen : (q a).getD 0 ≤ best.1) :
    scan q (l.filter fun b => !b == a) best = scan q l best := by
  induction l generalizing best with
  | nil => rfl
  | cons b l ih =>
      by_cases same : b = a
      · rw [List.filter_cons_of_neg (by simp [same]), ih best seen]
        show scan q l best = scan q l (keep q best b)
        rw [same, keep_of_le seen]
      · rw [List.filter_cons_of_pos (by simp [same])]
        exact ih _ (Nat.le_trans seen (le_keep best b).1)

theorem scan_eraseDups (l : List α) (best : Nat × α) : scan q l.eraseDups best = scan q l best := by
  match l with
  | [] => rfl
  | a :: l =>
      rw [List.eraseDups_cons]
      show scan q (l.filter fun b => !b == a).eraseDups (keep q best a) = scan q l (keep q best a)
      rw [scan_eraseDups (l.filter fun b => !b == a), scan_filter_ne l _ a (le_keep best a).2]
termination_by l.length
decreasing_by
  exact Nat.lt_succ_of_le (List.length_filter_le _ _)

/-- Repetitions, zeros and elements without a valuation never change the outcome. -/
theorem scan_considered (l : List α) (best : Nat × α) :
    scan q (considered q l) best = scan q l best := by
  rw [considered, scan_eraseDups, scan_filter]

end Scan

/-! ## Ranking -/

section Ranking

variable {q : α → Option Nat} {none : α}

theorem scan_of_le {l : List α} {best : Nat × α} (small : ∀ a ∈ l, (q a).getD 0 ≤ best.1) :
    scan q l best = best := by
  induction l with
  | nil => rfl
  | cons a l ih =>
      show scan q l (keep q best a) = best
      rw [keep_of_le (small a List.mem_cons_self)]
      exact ih fun b member => small b (List.mem_cons_of_mem a member)

/-- What the scan starts with only has to be compared with what it finds from nothing. -/
theorem scan_eq_ite (none : α) (l : List α) (best : Nat × α) :
    scan q l best = if best.1 < (scan q l (0, none)).1 then scan q l (0, none) else best := by
  induction l generalizing best with
  | nil => exact (if_neg (Nat.not_lt_zero _)).symm
  | cons a l ih =>
      show scan q l (keep q best a) = if best.1 < (scan q l (keep q (0, none) a)).1
        then scan q l (keep q (0, none) a) else best
      rw [ih (keep q best a), ih (keep q (0, none) a)]
      generalize scan q l (0, none) = later
      unfold keep
      cases q a with
      | none =>
          by_cases found : 0 < later.1
          · simp only [if_pos found]
          · simp only [if_neg found]
            rw [if_neg (by omega), if_neg (Nat.not_lt_zero _)]
      | some n =>
          -- Whatever is first of the three by value is what both sides keep.
          by_cases better : n > best.1 <;> by_cases positive : n > 0 <;>
            by_cases beaten : n < later.1
          all_goals simp only [better, positive, beaten, if_true, if_false]
          all_goals split_ifs <;> first | rfl | omega

/-- What an element is listed as, when it is worth something. -/
def worth (q : α → Option Nat) (a : α) : Option (Nat × α) :=
  ((q a).filter (0 < ·)).map fun n => (n, a)

def noBetter (a b : Nat × α) : Bool := b.1 ≤ a.1

/-- The elements worth something, best first; equals keep their order. -/
def ranked (q : α → Option Nat) (l : List α) : List (Nat × α) :=
  (l.filterMap (worth q)).mergeSort noBetter

theorem noBetter_trans (a b c : Nat × α) (ab : noBetter a b) (bc : noBetter b c) :
    noBetter a c := by
  simp only [noBetter, decide_eq_true_eq] at ab bc ⊢
  exact Nat.le_trans bc ab

theorem noBetter_total (a b : Nat × α) : noBetter a b || noBetter b a := by
  simp only [noBetter, Bool.or_eq_true, decide_eq_true_eq]
  exact Nat.le_total b.1 a.1

theorem worth_eq_some {a b : α} {n : Nat} :
    worth q a = some (n, b) ↔ a = b ∧ q a = some n ∧ 0 < n := by
  unfold worth
  cases q a with
  | none => simp
  | some m =>
      by_cases positive : 0 < m
      · simp only [Option.filter_some, decide_eq_true positive, if_true, Option.map_some,
          Option.some.injEq, Prod.mk.injEq]
        constructor
        · rintro ⟨rfl, rfl⟩
          exact ⟨rfl, rfl, positive⟩
        · rintro ⟨rfl, rfl, _⟩
          exact ⟨rfl, rfl⟩
      · simp only [Option.filter_some, decide_eq_false positive, Bool.false_eq_true, if_false,
          Option.map_none, reduceCtorEq, Option.some.injEq, false_iff]
        rintro ⟨_, rfl, other⟩
        exact positive other

theorem mem_ranked {l : List α} {n : Nat} {a : α} :
    (n, a) ∈ ranked q l ↔ a ∈ l ∧ q a = some n ∧ 0 < n := by
  rw [ranked, List.mem_mergeSort, List.mem_filterMap]
  constructor
  · rintro ⟨b, member, valued⟩
    obtain ⟨rfl, rest⟩ := worth_eq_some.mp valued
    exact ⟨member, rest⟩
  · rintro ⟨member, rest⟩
    exact ⟨a, member, worth_eq_some.mpr ⟨rfl, rest⟩⟩

theorem ranked_sorted (l : List α) : (ranked q l).Pairwise fun a b => b.1 ≤ a.1 := by
  have sorted := List.pairwise_mergeSort noBetter_trans noBetter_total (l.filterMap (worth q))
  exact sorted.imp fun le => by simpa [noBetter] using le

/-- Those of one value stand in the order of the list. -/
theorem ranked_stable (l : List α) (n : Nat) :
    (ranked q l).filter (fun a => a.1 = n) = (l.filterMap (worth q)).filter (fun a => a.1 = n) := by
  have equal : ((l.filterMap (worth q)).filter fun a => a.1 = n).Pairwise fun a b =>
      noBetter a b := by
    apply List.pairwise_of_forall_mem_list
    intro a ma b mb
    have ha : a.1 = n := by simpa using (List.mem_filter.mp ma).2
    have hb : b.1 = n := by simpa using (List.mem_filter.mp mb).2
    simp [noBetter, ha, hb]
  have kept :=
    (List.sublist_mergeSort noBetter_trans noBetter_total equal List.filter_sublist).filter
    fun a => decide (a.1 = n)
  rw [List.filter_filter] at kept
  simp only [Bool.and_self] at kept
  have same := (List.mergeSort_perm (l.filterMap (worth q)) noBetter).filter fun a =>
    decide (a.1 = n)
  exact (kept.eq_of_length same.length_eq.symm).symm

/-- Ties stand as in the list. -/
theorem ranked_ties (l : List α) {n : Nat} (priced : 0 < n) :
    ((ranked q l).filter fun a => a.1 = n).map Prod.snd = l.filter fun a => q a = some n := by
  rw [ranked_stable]
  induction l with
  | nil => rfl
  | cons a l ih =>
      rw [List.filterMap_cons]
      cases value : worth q a with
      | none =>
          have other : q a ≠ some n := by
            intro same
            rw [worth_eq_some.mpr ⟨rfl, same, priced⟩] at value
            cases value
          rw [List.filter_cons_of_neg (by simpa using other)]
          exact ih
      | some w =>
          obtain ⟨m, b⟩ := w
          obtain ⟨rfl, worth_m, _⟩ := worth_eq_some.mp value
          by_cases same : m = n
          · subst same
            rw [List.filter_cons_of_pos (by simp), List.filter_cons_of_pos (by simpa using worth_m),
              List.map_cons, ih]
          · rw [List.filter_cons_of_neg (by simpa using same),
              List.filter_cons_of_neg (by simpa [worth_m] using same)]
            exact ih

/-- The scan's choice is the first of the ranking. -/
theorem head?_ranked (l : List α) :
    (ranked q l).head? = if 0 < (scan q l (0, none)).1 then some (scan q l (0, none))
      else .none := by
  induction l with
  | nil => simp [ranked, scan]
  | cons a l ih =>
      show _ = if 0 < (scan q l (keep q (0, none) a)).1 then some (scan q l (keep q (0, none) a))
        else .none
      cases valued : worth q a with
      | none =>
          have nothing : keep q (0, none) a = (0, none) := by
            apply keep_of_le
            unfold worth at valued
            cases value : q a with
            | none => exact Nat.le_refl 0
            | some n =>
                rw [value] at valued
                simpa using valued
          rw [nothing, ← ih, ranked, List.filterMap_cons_none valued]
          rfl
      | some listed =>
          obtain ⟨n, b⟩ := listed
          obtain ⟨rfl, value, positive⟩ := worth_eq_some.mp valued
          have start : keep q (0, none) a = (n, a) := by
            unfold keep
            rw [value]
            exact if_pos positive
          obtain ⟨front, back, sorted, rest, passed⟩ :=
            List.mergeSort_cons noBetter_trans noBetter_total (n, a) (l.filterMap (worth q))
          have whole : ranked q (a :: l) = front ++ (n, a) :: back := by
            rw [ranked, List.filterMap_cons_some valued]
            exact sorted
          have before : ranked q l = front ++ back := rest
          rw [whole, start, scan_eq_ite none]
          cases front with
          | nil =>
              have small : ¬ n < (scan q l (0, none)).1 := by
                intro later
                rw [if_pos (Nat.zero_lt_of_lt later), before] at ih
                have behind : scan q l (0, none) ∈ back := List.mem_of_mem_head? ih
                have ordered := ranked_sorted (q := q) (a :: l)
                rw [whole] at ordered
                exact Nat.not_le_of_lt later ((List.pairwise_cons.mp ordered).1 _ behind)
              rw [if_neg small, if_pos positive]
              rfl
          | cons first front =>
              have better : n < first.1 := by simpa [noBetter] using passed first List.mem_cons_self
              rw [before] at ih
              have found : 0 < (scan q l (0, none)).1 := by
                by_contra nothing
                rw [if_neg nothing] at ih
                cases ih
              rw [if_pos found] at ih
              have same : first = scan q l (0, none) := Option.some.inj ih
              rw [← same, if_pos better, if_pos (Nat.zero_lt_of_lt better)]
              rfl

theorem scan_eq_head (l : List α) : scan q l (0, none) = (ranked q l).head?.getD (0, none) := by
  have head : (ranked q l).head? = if 0 < (scan q l (0, none)).1 then some (scan q l (0, none))
      else .none :=
    head?_ranked l
  by_cases found : 0 < (scan q l (0, none)).1
  · rw [if_pos found] at head
    rw [head, Option.getD_some]
  · rw [if_neg found] at head
    have empty : ranked q l = [] := List.head?_eq_none_iff.mp head
    rw [empty]
    apply scan_of_le
    intro a member
    cases value : q a with
    | none => exact Nat.zero_le _
    | some n =>
        by_contra positive
        have listed : (n, a) ∈ ranked q l :=
          mem_ranked.mpr ⟨member, value, Nat.pos_of_ne_zero fun zero =>
          positive (Nat.le_of_eq zero)⟩
        rw [empty] at listed
        cases listed

/-- What is left of a ranking ranks as it stands. -/
theorem ranked_drop (l : List α) (k : Nat) :
    ranked q (((ranked q l).drop k).map Prod.snd) = (ranked q l).drop k := by
  have sorted := (ranked_sorted (q := q) l).sublist (List.drop_sublist k _)
  have valued : ∀ a ∈ (ranked q l).drop k, worth q a.2 = some a := by
    intro a member
    exact worth_eq_some.mpr ⟨rfl, (mem_ranked.mp (List.mem_of_mem_drop member)).2⟩
  generalize (ranked q l).drop k = left at sorted valued
  have kept : (left.map Prod.snd).filterMap (worth q) = left := by
    clear sorted
    induction left with
    | nil => rfl
    | cons a left ih =>
        rw [List.map_cons, List.filterMap_cons_some (valued a List.mem_cons_self),
          ih fun b member => valued b (List.mem_cons_of_mem a member)]
  rw [ranked, kept]
  apply List.mergeSort_of_pairwise
  exact sorted.imp fun le => by simpa [noBetter] using le

end Ranking

end FirstMax
