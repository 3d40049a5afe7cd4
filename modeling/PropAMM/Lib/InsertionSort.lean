import Mathlib.Data.List.DropRight
import Mathlib.Data.List.Perm.Basic

/-! # Insertion from the right

A key moves left past the elements it beats and stops behind the first one it
does not. Nothing is assumed of `better` for the result to be a permutation; on
elements where it is a strict weak order, the result is ranked. Elements that do
not beat each other keep the order they had.
-/

namespace List

variable {α : Type} (better : α → α → Bool)

/-- Insert `key` behind the last element it does not beat. -/
def insertRight (key : α) (l : List α) : List α :=
  l.rdropWhile (better key) ++ key :: l.rtakeWhile (better key)

/-- Insert the keys in turn. -/
def insertAll (ranked keys : List α) : List α :=
  keys.foldl (fun l key => l.insertRight better key) ranked

/-- No element is beaten by a later one. -/
def Ranked (l : List α) : Prop := l.Pairwise fun a b => better b a = false

@[simp] theorem insertRight_nil (key : α) : [].insertRight better key = [key] := rfl

theorem insertRight_concat_of_beaten {key a : α} (h : better key a = true) (l : List α) :
    (l ++ [a]).insertRight better key = l.insertRight better key ++ [a] := by
  rw [insertRight, rdropWhile_concat_pos (better key) l a h,
    rtakeWhile_concat_pos (better key) l a h, insertRight, append_assoc, cons_append]

theorem insertRight_concat_of_unbeaten {key a : α} (h : better key a = false) (l : List α) :
    (l ++ [a]).insertRight better key = l ++ [a] ++ [key] := by
  have unbeaten : ¬ better key a = true := by simp [h]
  rw [insertRight, rdropWhile_concat_neg (better key) l a unbeaten,
    rtakeWhile_concat_neg (better key) l a unbeaten]

theorem insertRight_perm (key : α) (l : List α) : (l.insertRight better key).Perm (key :: l) := by
  rw [insertRight]
  have whole : l.rdropWhile (better key) ++ l.rtakeWhile (better key) = l :=
    rdropWhile_append_rtakeWhile
  exact perm_middle.trans (by rw [whole])

theorem insertAll_perm (ranked keys : List α) :
    (ranked.insertAll better keys).Perm (ranked ++ keys) := by
  induction keys generalizing ranked with
  | nil => simp [insertAll]
  | cons key keys ih =>
      have step := ih (ranked.insertRight better key)
      have front := (insertRight_perm better key ranked).append_right keys
      exact step.trans (front.trans perm_middle.symm)

section Stability

variable {better} {p : α → Bool}

/-- The key passes only elements it beats, so none of those it does not. -/
theorem filter_insertRight {key : α} {l : List α}
    (unbeaten : p key = true → ∀ a ∈ l, p a = true → better key a = false) :
    (l.insertRight better key).filter p = (l ++ [key]).filter p := by
  have whole : l.rdropWhile (better key) ++ l.rtakeWhile (better key) = l :=
    rdropWhile_append_rtakeWhile
  have passed : ∀ a ∈ l.rtakeWhile (better key), better key a = true := fun a member =>
    mem_rtakeWhile_imp member
  cases keyed : p key with
  | true =>
      have none : (l.rtakeWhile (better key)).filter p = [] := by
        rw [filter_eq_nil_iff]
        intro a member kept
        have old : a ∈ l := by
          rw [← whole]
          exact mem_append_right _ member
        exact Bool.false_ne_true ((unbeaten keyed a old kept).symm.trans (passed a member))
      have front : (l.rdropWhile (better key)).filter p = l.filter p := by
        conv_rhs => rw [← whole, filter_append, none, append_nil]
      rw [insertRight, filter_append, filter_cons_of_pos keyed, none, front, filter_append,
        filter_cons_of_pos keyed, filter_nil]
  | false =>
      have dropped : ¬ p key = true := by simp [keyed]
      rw [insertRight, filter_append, filter_cons_of_neg dropped, ← filter_append, whole,
        filter_append, filter_cons_of_neg dropped, filter_nil, append_nil]

/-- Elements of a class whose members do not beat each other keep their order. -/
theorem filter_insertAll {ranked keys : List α}
    (unbeaten : ∀ a ∈ ranked ++ keys, ∀ b ∈ ranked ++ keys, p a = true → p b = true →
      better a b = false) :
    (ranked.insertAll better keys).filter p = (ranked ++ keys).filter p := by
  induction keys generalizing ranked with
  | nil => rw [append_nil]; rfl
  | cons key keys ih =>
      have moved : ∀ a, a ∈ ranked.insertRight better key ++ keys → a ∈ ranked ++ key :: keys :=
        fun a member =>
        (((insertRight_perm better key ranked).append_right keys).trans perm_middle.symm).mem_iff.mp
          member
      have step : (ranked.insertRight better key).filter p = (ranked ++ [key]).filter p := by
        apply filter_insertRight
        intro keyed a member kept
        exact unbeaten key (by simp) a (by simp [member]) keyed kept
      have rest := ih fun a ha b hb => unbeaten a (moved a ha) b (moved b hb)
      calc (ranked.insertAll better (key :: keys)).filter p
          = (ranked.insertRight better key ++ keys).filter p := rest
        _ = (ranked ++ [key] ++ keys).filter p := by rw [filter_append, step, ← filter_append]
        _ = (ranked ++ key :: keys).filter p := by rw [append_assoc, singleton_append]

end Stability

section Order

variable {better} {P : α → Prop}
  (asymm : ∀ {a b}, P a → P b → better a b = true → better b a = false)
  (negTrans : ∀ {a b c}, P a → P b → P c → better b a = false → better c b = false →
    better c a = false)

include asymm negTrans

theorem Ranked.insertRight {key : α} {l : List α} (ranked : l.Ranked better) (keyed : P key)
    (all : ∀ a ∈ l, P a) : (l.insertRight better key).Ranked better := by
  induction l using List.reverseRecOn with
  | nil => simp [Ranked]
  | append_singleton l last ih =>
      have lastP : P last := all last (by simp)
      have front : ∀ a ∈ l, P a := fun a member => all a (by simp [member])
      obtain ⟨ranked_front, _, below⟩ := pairwise_append.mp ranked
      have below : ∀ a ∈ l, better last a = false := fun a member => below a member last (by simp)
      cases beats : better key last with
      | true =>
          rw [insertRight_concat_of_beaten better beats]
          refine pairwise_append.mpr ⟨ih ranked_front front, by simp, ?_⟩
          intro a member b single
          rw [List.mem_singleton.mp single]
          -- What stands before `last` now is `key` or stood there already.
          rcases List.mem_cons.mp ((insertRight_perm better key l).mem_iff.mp member) with rfl | old
          · exact asymm keyed lastP beats
          · exact below a old
      | false =>
          rw [insertRight_concat_of_unbeaten better beats]
          refine pairwise_append.mpr ⟨ranked, by simp, ?_⟩
          intro a member b single
          rw [List.mem_singleton.mp single]
          rcases List.mem_append.mp member with old | rest
          · exact negTrans (front a old) lastP keyed (below a old) beats
          · rw [List.mem_singleton.mp rest]
            exact beats

theorem Ranked.insertAll {ranked keys : List α} (sorted : ranked.Ranked better)
    (all : ∀ a ∈ ranked, P a) (keyed : ∀ a ∈ keys, P a) :
    (ranked.insertAll better keys).Ranked better := by
  induction keys generalizing ranked with
  | nil => exact sorted
  | cons key keys ih =>
      have keyP : P key := keyed key (by simp)
      apply ih (sorted.insertRight asymm negTrans keyP all)
      · intro a member
        rcases List.mem_cons.mp
          ((insertRight_perm better key ranked).mem_iff.mp member) with rfl | old
        · exact keyP
        · exact all a old
      · intro a member
        exact keyed a (by simp [member])

end Order

end List
