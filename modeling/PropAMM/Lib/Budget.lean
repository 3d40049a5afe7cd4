import PropAMM.Lib.Txn

/-! # Budgets of a transaction

A measure counts what a program uses up, and a rollback does not give it back.
`Spends μ n m left` bounds how far `m` raises the measure on every outcome and says
what a result leaves of `n` for whatever comes after it. Budgets then compose as
potentials do in an amortised analysis: a program that may pay only once for something
leaves the price with the results that have not paid yet.
-/

universe u

namespace Txn

variable {ε σ α β : Type u}

/-- What a reverted frame used up stays used up. -/
class Counted [Rollback σ] (μ : σ → Nat) : Prop where
  rollback : ∀ s t : σ, μ (Rollback.rollback s t) = μ t

/-- `m` raises `μ` by at most `n`, less what its result leaves. -/
def Spends (μ : σ → Nat) (n : Nat) (m : EStateM ε σ α) (left : α → Nat) : Prop :=
  ∀ s, wp m s (fun a s' => μ s' + left a ≤ μ s + n) (fun _ s' => μ s' ≤ μ s + n)

section Rules

variable {μ : σ → Nat} {n : Nat} {m : EStateM ε σ α} {left : α → Nat}

theorem Spends.pure {a : α} (h : left a ≤ n) : Spends μ n (pure a : EStateM ε σ α) left :=
  fun s => Nat.add_le_add_left h (μ s)

theorem Spends.throw (e : ε) : Spends μ n (throw e : EStateM ε σ α) left :=
  fun _ => Nat.le_add_right _ _

theorem Spends.reads (f : σ → α) : Spends μ n (reads f : EStateM ε σ α) fun _ => n :=
  fun _ => Nat.le_refl _

theorem Spends.lift (r : Except ε α) : Spends μ n (lift r : EStateM ε σ α) fun _ => n := by
  intro s
  cases r with
  | ok a => exact Nat.le_refl _
  | error e => exact Nat.le_add_right _ _

theorem Spends.mono {n' : Nat} {left' : α → Nat} (h : Spends μ n m left) (more : n ≤ n')
    (less : ∀ a, left' a ≤ left a) : Spends μ n' m left' := by
  intro s
  refine wp_mono (h s) ?_ ?_
  · intro a s' used
    have := less a
    omega
  · intro e s' used
    omega

theorem Spends.bind {f : β → EStateM ε σ α} {p : EStateM ε σ β} {k : β → Nat} (hp : Spends μ n p k)
    (hf : ∀ b, Spends μ (k b) (f b) left) : Spends μ n (p >>= f) left := by
  intro s
  rw [wp_bind]
  refine wp_mono (hp s) ?_ (fun _ _ used => used)
  intro b s₁ used
  refine wp_mono (hf b s₁) ?_ ?_
  · intro a s₂ later
    omega
  · intro e s₂ later
    omega

/-- Knowing more about the first program's results. -/
theorem Spends.bind_of {f : β → EStateM ε σ α} {p : EStateM ε σ β} {k : β → Nat} {Q : β → Prop}
    (hp : Spends μ n p k) (result : ∀ s, Ensures p s (fun b _ => Q b))
    (hf : ∀ b, Q b → Spends μ (k b) (f b) left) : Spends μ n (p >>= f) left := by
  intro s
  rw [wp_bind]
  refine wp_mono (wp_and (hp s) (result s)) ?_ (fun _ _ h => h.1)
  rintro b s₁ ⟨used, known⟩
  refine wp_mono (hf b known s₁) ?_ ?_
  · intro a s₂ later
    omega
  · intro e s₂ later
    omega

/-- What a `require` lets through. -/
theorem Spends.gate {c : Prop} [Decidable c] {e : ε} {f : PUnit → EStateM ε σ α}
    (passed : c → Spends μ n (f ⟨⟩) left) : Spends μ n (require c e >>= f) left := by
  intro s
  simp only [wp_bind, wp_require]
  exact ⟨fun holds => passed holds s, fun _ => Nat.le_add_right _ _⟩

theorem Spends.require {c : Prop} [Decidable c] {e : ε} :
    Spends μ n (require c e : EStateM ε σ PUnit) fun _ => n := by
  intro s
  simp only [wp_require]
  exact ⟨fun _ => Nat.le_refl _, fun _ => Nat.le_add_right _ _⟩

theorem Spends.ite {c : Prop} [Decidable c] {p q : EStateM ε σ α} (hp : c → Spends μ n p left)
    (hq : ¬ c → Spends μ n q left) : Spends μ n (if c then p else q) left := by
  split
  · rename_i holds
    exact hp holds
  · rename_i fails
    exact hq fails

/-- An inner call uses up its own budget at most, whether it reverts or not. -/
theorem Spends.attempt [Rollback σ] [Counted μ] (h : Spends μ n m left) (k : Nat) :
    Spends μ (n + k) (attempt m) fun _ => k := by
  intro s
  rw [wp_attempt]
  refine wp_mono (h s) ?_ ?_
  · intro a s' used
    show μ s' + k ≤ μ s + (n + k)
    omega
  · intro e s' used
    have kept : μ (Rollback.rollback s s') = μ s' := Counted.rollback s s'
    show μ (Rollback.rollback s s') + k ≤ μ s + (n + k)
    omega

/-- Whatever the outcome, the measure stays within the budget. -/
theorem Spends.final (h : Spends μ n m left) (s : σ) : μ (final m s) ≤ μ s + n := by
  have used := h s
  unfold wp at used
  unfold Txn.final
  cases run : m s with
  | ok a s' =>
      rw [run] at used
      exact Nat.le_of_add_right_le used
  | error e s' =>
      rw [run] at used
      exact used

end Rules

end Txn
