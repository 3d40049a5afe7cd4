import Mathlib.Data.List.Nodup

/-! # Lists searched by a key

Records in a list under a key of theirs. One operation pushes a record unless its key is
taken, so the first under a key stays; the other updates the record under a key in place,
and pushes one where there is none. Both keep the keys distinct.
-/

namespace Keyed

variable {α κ : Type} [DecidableEq κ] (key : α → κ)

/-- The first record under a key. -/
def at? (l : List α) (k : κ) : Option α := l.find? fun a => key a = k

def pushNew (l : List α) (a : α) : List α := if l.any fun b => key b = key a then l else l ++ [a]

def pushAll (l as : List α) : List α := as.foldl (pushNew key) l

/-- Update the first record under `k`, or what `fresh` becomes at the end. -/
def updateAt (k : κ) (fresh : α) (f : α → α) : List α → List α
  | [] => [f fresh]
  | a :: rest => if key a = k then f a :: rest else a :: updateAt k fresh f rest

variable {key}

theorem at?_append (l as : List α) (k : κ) :
    at? key (l ++ as) k = (at? key l k).or (at? key as k) :=
  List.find?_append

theorem at?_eq_none {l : List α} {k : κ} (absent : ∀ a ∈ l, key a ≠ k) : at? key l k = none := by
  apply List.find?_eq_none.mpr
  intro a member
  simpa using absent a member

theorem at?_eq_some_iff {l : List α} (once : (l.map key).Nodup) {k : κ} {a : α} :
    at? key l k = some a ↔ a ∈ l ∧ key a = k := by
  constructor
  · intro found
    exact ⟨List.mem_of_find?_eq_some found, by simpa using List.find?_some found⟩
  · rintro ⟨member, rfl⟩
    cases found : at? key l (key a) with
    | none =>
        have none_here := List.find?_eq_none.mp found a member
        simp at none_here
    | some b =>
        have same : key b = key a := by simpa using List.find?_some found
        rw [List.inj_on_of_nodup_map once (List.mem_of_find?_eq_some found) member same]

/-! ## Pushing what is new -/

theorem at?_pushNew (l : List α) (a : α) (k : κ) :
    at? key (pushNew key l a) k = at? key (l ++ [a]) k := by
  unfold pushNew
  split
  · rename_i taken
    obtain ⟨b, member, same⟩ := List.any_eq_true.mp taken
    have same : key b = key a := by simpa using same
    rw [at?_append]
    by_cases here : key a = k
    · have found : (at? key l k).isSome := by
        rw [at?, List.find?_isSome]
        exact ⟨b, member, by simpa using same.trans here⟩
      rw [Option.or_of_isSome found]
    · have other : at? key [a] k = none := at?_eq_none (by simpa using here)
      rw [other, Option.or_none]
  · rfl

theorem nodup_pushNew {l : List α} (once : (l.map key).Nodup) (a : α) :
    ((pushNew key l a).map key).Nodup := by
  unfold pushNew
  split
  · exact once
  · rename_i fresh
    have absent : key a ∉ l.map key := by
      intro taken
      obtain ⟨b, member, same⟩ := List.mem_map.mp taken
      exact fresh (List.any_eq_true.mpr ⟨b, member, by simpa using same⟩)
    rw [List.map_append, List.map_singleton, ← List.concat_eq_append]
    exact once.concat absent

/-- Of the records under one key the first stays. -/
theorem at?_pushAll (l as : List α) (k : κ) :
    at? key (pushAll key l as) k = at? key (l ++ as) k := by
  induction as generalizing l with
  | nil => rw [List.append_nil]; rfl
  | cons a as ih =>
      have step : pushAll key l (a :: as) = pushAll key (pushNew key l a) as := rfl
      rw [step, ih, at?_append, at?_pushNew, ← at?_append, List.append_assoc, List.singleton_append]

theorem nodup_pushAll {l : List α} (once : (l.map key).Nodup) (as : List α) :
    ((pushAll key l as).map key).Nodup := by
  induction as generalizing l with
  | nil => exact once
  | cons a as ih => exact ih (nodup_pushNew once a)

theorem mem_pushAll {l as : List α} {b : α} (member : b ∈ pushAll key l as) : b ∈ l ∨ b ∈ as := by
  induction as generalizing l with
  | nil => exact .inl member
  | cons a as ih =>
      rcases ih member with pushed | later
      · unfold pushNew at pushed
        split at pushed
        · exact .inl pushed
        · rcases List.mem_append.mp pushed with earlier | here
          · exact .inl earlier
          · exact .inr (List.mem_cons.mpr (.inl (List.mem_singleton.mp here)))
      · exact .inr (List.mem_cons_of_mem a later)

/-! ## Updating in place -/

section Update

variable {k : κ} {fresh : α} {f : α → α}

theorem map_updateAt (named : key fresh = k) (keeps : ∀ a, key a = k → key (f a) = k) (l : List α) :
    (updateAt key k fresh f l).map key = if k ∈ l.map key then l.map key else l.map key ++ [k] := by
  induction l with
  | nil => simp [updateAt, keeps, named]
  | cons a rest ih =>
      by_cases same : key a = k
      · simp [updateAt, keeps, same]
      · have other : k ≠ key a := fun h => same h.symm
        simp only [updateAt, if_neg same, List.map_cons, ih, List.mem_cons, other, false_or]
        split <;> rfl

theorem nodup_updateAt (named : key fresh = k) (keeps : ∀ a, key a = k → key (f a) = k) {l : List α}
    (once : (l.map key).Nodup) : ((updateAt key k fresh f l).map key).Nodup := by
  rw [map_updateAt named keeps]
  split
  · exact once
  · rename_i absent
    rw [← List.concat_eq_append]
    exact once.concat absent

theorem at?_updateAt (named : key fresh = k) (keeps : ∀ a, key a = k → key (f a) = k)
    (l : List α) (k' : κ) : at? key (updateAt key k fresh f l) k' =
      if k = k' then some (f ((at? key l k).getD fresh)) else at? key l k' := by
  induction l with
  | nil =>
      by_cases here : k = k' <;> simp [updateAt, at?, keeps, named, here]
  | cons a rest ih =>
      by_cases same : key a = k
      · by_cases here : k = k'
        · simp [updateAt, at?, same, keeps, ← here]
        · simp [updateAt, at?, same, keeps, here]
      · have tail : at? key (a :: rest) k = at? key rest k := by simp [at?, same]
        rw [tail]
        by_cases there : key a = k'
        · have other : k ≠ k' := fun h => same (there.trans h.symm)
          rw [updateAt, if_neg same, if_neg other]
          simp [at?, there]
        · have skip : ∀ l : List α, at? key (a :: l) k' = at? key l k' := by simp [at?, there]
          rw [updateAt, if_neg same, skip, skip, ih]

theorem forall_updateAt {P : α → Prop} {l : List α} (all : ∀ a ∈ l, P a) (new : P (f fresh))
    (step : ∀ a, P a → P (f a)) : ∀ a ∈ updateAt key k fresh f l, P a := by
  induction l with
  | nil => simpa [updateAt] using new
  | cons a rest ih =>
      obtain ⟨head, tail⟩ := List.forall_mem_cons.mp all
      unfold updateAt
      split
      · exact List.forall_mem_cons.mpr ⟨step a head, tail⟩
      · exact List.forall_mem_cons.mpr ⟨head, ih tail⟩

end Update

/-! ## Records and keys under another name -/

section Rename

variable {β κ' : Type} [DecidableEq κ'] {key' : β → κ'} {g : α → β}

theorem map_pushNew {l : List α} {a : α} (same : ∀ b ∈ l, key' (g b) = key' (g a) ↔ key b = key a) :
    (pushNew key l a).map g = pushNew key' (l.map g) (g a) := by
  have taken : ((l.map g).any fun b => decide (key' b = key' (g a))) = l.any fun b =>
      decide (key b = key a) := by
    rw [List.any_map, Bool.eq_iff_iff, List.any_eq_true, List.any_eq_true]
    constructor
    · rintro ⟨b, member, here⟩
      exact ⟨b, member, decide_eq_true ((same b member).mp (of_decide_eq_true here))⟩
    · rintro ⟨b, member, here⟩
      exact ⟨b, member, decide_eq_true ((same b member).mpr (of_decide_eq_true here))⟩
  unfold pushNew
  rw [taken]
  split
  · rfl
  · rw [List.map_append, List.map_singleton]

theorem map_pushAll (same : ∀ a b, key' (g a) = key' (g b) ↔ key a = key b) (l as : List α) :
    (pushAll key l as).map g = pushAll key' (l.map g) (as.map g) := by
  induction as generalizing l with
  | nil => rfl
  | cons a as ih =>
      have step : pushAll key l (a :: as) = pushAll key (pushNew key l a) as := rfl
      rw [step, ih, map_pushNew fun b _ => same b a]
      rfl

/-- Where the new names tell the keys apart, updating commutes with renaming. -/
theorem map_updateAt_eq {k : κ} {k' : κ'} {fresh : α} {f : α → α} {f' : β → β} {l : List α}
    (named : ∀ a ∈ l, key' (g a) = k' ↔ key a = k) (started : g (f fresh) = f' (g fresh))
    (step : ∀ a ∈ l, key a = k → g (f a) = f' (g a)) :
    (updateAt key k fresh f l).map g = updateAt key' k' (g fresh) f' (l.map g) := by
  induction l with
  | nil => rw [updateAt, List.map_singleton, started, List.map_nil, updateAt]
  | cons a rest ih =>
      obtain ⟨here, later⟩ := List.forall_mem_cons.mp named
      obtain ⟨first, others⟩ := List.forall_mem_cons.mp step
      rw [List.map_cons, updateAt, updateAt]
      by_cases same : key a = k
      · rw [if_pos same, if_pos (here.mpr same), List.map_cons, first same]
      · rw [if_neg same, if_neg (mt here.mp same), List.map_cons, ih later others]

end Rename

end Keyed
