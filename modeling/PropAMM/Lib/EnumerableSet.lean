import Mathlib.Data.List.Perm.Basic
import Mathlib.Data.List.Nodup
import Mathlib.Data.List.NodupEquivFin

/-! # Enumerable sets

A set stored as an array with an index. Insertion appends; removal overwrites
the removed slot with the last element and pops, so the stored order is
observable but not stable.
-/

/-- Array-backed set. The array never holds an element twice. -/
structure EnumerableSet (α : Type) where
  values : List α
  nodup : values.Nodup

/-- Overwrite slot `i` with the last element, then drop the last slot. -/
def List.swapPop {α : Type} (l : List α) (i : Nat) : List α :=
  match l.getLast? with
  | none => []
  | some last => (l.set i last).dropLast

theorem List.swapPop_append {α : Type} (pre : List α) (a : α) (post : List α) :
    (pre ++ a :: post).swapPop pre.length = pre ++ (post.getLast?.toList ++ post.dropLast) := by
  rcases List.eq_nil_or_concat post with rfl | ⟨mid, last, rfl⟩
  · simp [List.swapPop]
  · have shape : pre ++ a :: (mid.concat last) = (pre ++ a :: mid) ++ [last] := by simp
    have whole : (pre ++ a :: (mid.concat last)).getLast? = some last := by
      rw [shape]
      exact List.getLast?_concat
    have written : (pre ++ a :: (mid.concat last)).set pre.length last =
        (pre ++ last :: mid) ++ [last] := by simp
    simp only [List.swapPop, whole, written, List.dropLast_concat]
    simp

/-- Swap-and-pop removes exactly the chosen occurrence, up to order. -/
theorem List.swapPop_perm {α : Type} (pre : List α) (a : α) (post : List α) :
    ((pre ++ a :: post).swapPop pre.length).Perm (pre ++ post) := by
  rw [List.swapPop_append]
  apply List.Perm.append_left
  rcases List.eq_nil_or_concat post with rfl | ⟨mid, last, rfl⟩
  · exact List.Perm.refl _
  · have whole : (mid.concat last).getLast?.toList ++ (mid.concat last).dropLast = last :: mid := by
      simp
    rw [whole, List.concat_eq_append]
    exact (List.perm_append_singleton last mid).symm

namespace EnumerableSet

variable {α : Type}

instance : Membership α (EnumerableSet α) := ⟨fun s a => a ∈ s.values⟩

theorem mem_iff {s : EnumerableSet α} {a : α} : a ∈ s ↔ a ∈ s.values := Iff.rfl

instance [DecidableEq α] (s : EnumerableSet α) (a : α) : Decidable (a ∈ s) :=
  inferInstanceAs (Decidable (a ∈ s.values))

def empty : EnumerableSet α := ⟨[], List.nodup_nil⟩

def length (s : EnumerableSet α) : Nat := s.values.length

variable [DecidableEq α]

/-- `none` when the element was already there. -/
def add (s : EnumerableSet α) (a : α) : Option (EnumerableSet α) :=
  if fresh : a ∈ s.values then none
  else some ⟨s.values ++ [a], by
    rw [← List.concat_eq_append]
    exact s.nodup.concat fresh⟩

private theorem remove_nodup {s : EnumerableSet α} {a : α} (present : a ∈ s.values) :
    (s.values.swapPop (s.values.idxOf a)).Nodup ∧
      ∀ b, b ∈ s.values.swapPop (s.values.idxOf a) ↔ b ∈ s.values ∧ b ≠ a := by
  obtain ⟨pre, post, shape⟩ := List.mem_iff_append.mp present
  have absent : a ∉ pre := by
    intro inPre
    have nodup := shape ▸ s.nodup
    exact (List.nodup_append.mp nodup).2.2 a inPre a (by simp) rfl
  have index : s.values.idxOf a = pre.length := by
    rw [shape, List.idxOf_append_of_notMem absent]
    simp
  rw [index, shape]
  have perm := List.swapPop_perm pre a post
  have nodup := shape ▸ s.nodup
  have moved : (a :: (pre ++ post)).Nodup := (List.perm_middle.nodup_iff).mp nodup
  obtain ⟨outside, rest⟩ := List.nodup_cons.mp moved
  refine ⟨perm.nodup_iff.mpr rest, fun b => ?_⟩
  rw [perm.mem_iff]
  constructor
  · intro member
    refine ⟨?_, fun same => outside (same ▸ member)⟩
    simp only [List.mem_append, List.mem_cons] at member ⊢
    tauto
  · rintro ⟨member, different⟩
    simp only [List.mem_append, List.mem_cons] at member ⊢
    tauto

/-- `none` when the element is not there. -/
def remove (s : EnumerableSet α) (a : α) : Option (EnumerableSet α) :=
  if present : a ∈ s.values then
    some ⟨s.values.swapPop (s.values.idxOf a), (remove_nodup present).1⟩
  else none

theorem mem_add {s t : EnumerableSet α} {a b : α} (h : s.add a = some t) :
    b ∈ t ↔ b ∈ s ∨ b = a := by
  unfold add at h
  split at h
  · cases h
  · cases h
    simp [mem_iff]

theorem mem_remove {s t : EnumerableSet α} {a b : α} (h : s.remove a = some t) :
    b ∈ t ↔ b ∈ s ∧ b ≠ a := by
  unfold remove at h
  split at h
  · rename_i present
    cases h
    exact (remove_nodup present).2 b
  · cases h

theorem not_mem_of_remove_eq_none {s : EnumerableSet α} {a : α} (h : s.remove a = none) :
    a ∉ s := by
  intro member
  unfold remove at h
  rw [dif_pos (mem_iff.mp member)] at h
  cases h

end EnumerableSet
