import Mathlib.Data.List.Forall2
import PropAMM.Lib.Txn

/-! # Programs that end alike

Two programs agree when, from any two states, both return related results or
both revert with the same error. Agreement composes along both programs.
-/

universe u

namespace Txn

variable {ε σ α β γ δ : Type u}

/-- The states the programs start and end in play no part in how they end. -/
def Agree (R : α → β → Prop) (m : EStateM ε σ α) (n : EStateM ε σ β) : Prop :=
  ∀ s t, wp m s (fun a _ => Returns n t fun b _ => R a b)
    (fun e _ => wp n t (fun _ _ => False) fun e' _ => e' = e)

/-- The same of computations without state. -/
inductive Alike (R : α → β → Prop) : Except ε α → Except ε β → Prop
  | ok {a b} (related : R a b) : Alike R (.ok a) (.ok b)
  | error {e} : Alike R (.error e) (.error e)

theorem Alike.refl (r : Except ε α) : Alike Eq r r := by
  cases r with
  | ok a => exact .ok rfl
  | error e => exact .error

theorem Alike.bind {R : α → β → Prop} {S : γ → δ → Prop} {r : Except ε α} {r' : Except ε β}
    {f : α → Except ε γ} {g : β → Except ε δ} (first : Alike R r r')
    (rest : ∀ a b, R a b → Alike S (f a) (g b)) : Alike S (r >>= f) (r' >>= g) := by
  cases first with
  | ok related => exact rest _ _ related
  | error => exact .error

section Rules

variable {R : α → β → Prop} {m : EStateM ε σ α} {n : EStateM ε σ β}

theorem Agree.pure {a : α} {b : β} (related : R a b) :
    Agree R (pure a : EStateM ε σ α) (pure b : EStateM ε σ β) := fun _ _ => related

theorem Agree.of_returns {a : α} {b : β} (first : ∀ s, Returns m s fun a' _ => a' = a)
    (second : ∀ s, Returns n s fun b' _ => b' = b) (related : R a b) : Agree R m n := by
  intro s t
  refine wp_mono (first s) ?_ (fun _ _ h => h.elim)
  rintro a' s' rfl
  refine wp_mono (second t) ?_ (fun _ _ h => h)
  rintro b' t' rfl
  exact related

theorem Agree.bind {S : γ → δ → Prop} {f : α → EStateM ε σ γ} {g : β → EStateM ε σ δ}
    (first : Agree R m n) (rest : ∀ a b, R a b → Agree S (f a) (g b)) :
    Agree S (m >>= f) (n >>= g) := by
  intro s t
  rw [wp_bind]
  refine wp_mono (first s t) ?_ ?_
  · intro a s' returned
    obtain ⟨b, t', run, related⟩ := Returns.exists returned
    refine wp_mono (rest a b related s' t') ?_ ?_
    · intro c s₁ second
      rw [Returns, wp_bind]
      unfold wp
      rw [run]
      exact second
    · intro e s₁ second
      rw [wp_bind]
      unfold wp
      rw [run]
      exact second
  · intro e s' reverted
    rw [wp_bind]
    exact wp_mono reverted (fun _ _ h => h.elim) (fun _ _ h => h)

theorem Agree.lift {r : Except ε α} {r' : Except ε β} (alike : Alike R r r') :
    Agree R (lift r : EStateM ε σ α) (Txn.lift r') := by
  intro s t
  cases alike with
  | ok related => exact related
  | error => exact rfl

theorem Agree.ite {c d : Prop} [Decidable c] [Decidable d] {m' : EStateM ε σ α} {n' : EStateM ε σ β}
    (same : c ↔ d) (yes : Agree R m n) (no : Agree R m' n') :
    Agree R (if c then m else m') (if d then n else n') := by
  by_cases h : c
  · rw [if_pos h, if_pos (same.mp h)]
    exact yes
  · rw [if_neg h, if_neg (fun other => h (same.mpr other))]
    exact no

/-- Two successful runs have related results. -/
theorem Agree.ok {a : α} {b : β} {s s' t t' : σ} (agree : Agree R m n) (run : m s = .ok a s')
    (run' : n t = .ok b t') : R a b := by
  have reply : Returns n t fun b _ => R a b :=
    wp_ok (Q := fun a _ => Returns n t fun b _ => R a b) (agree s t) run
  exact wp_ok (Q := fun b _ => R a b) reply run'

end Rules

end Txn
