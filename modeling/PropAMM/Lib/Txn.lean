import Mathlib.Order.Defs.PartialOrder

/-! # Revertible transactions

A transaction is a program in `EStateM`: it reads and writes a state and may
revert with an error. `attempt` is the frame of an inner call: when the body
reverts the state is rolled back, except for what `Rollback` decides to keep.

`wp` is the weakest precondition over both outcomes. `Ensures` is partial and
`Returns` total correctness. `Within R` says that every outcome, reverted or
not, is `R`-related to the start; for a preorder it composes along the program.
-/

universe u

/-- What remains of a failed inner call once its effects are undone. -/
class Rollback (σ : Type u) where
  rollback : (before failed : σ) → σ

namespace Txn

variable {ε σ α β : Type u}

/-- Run an inner call in its own frame: `none` when it reverted. -/
def attempt [Rollback σ] (m : EStateM ε σ α) : EStateM ε σ (Option α) := fun s =>
  match m s with
  | .ok a s' => .ok (some a) s'
  | .error _ s' => .ok none (Rollback.rollback s s')

/-- `require(condition, error)`. -/
def require (c : Prop) [Decidable c] (e : ε) : EStateM ε σ PUnit :=
  if c then pure ⟨⟩ else throw e

/-- Read a component of the state. -/
def reads (f : σ → α) : EStateM ε σ α := fun s => .ok (f s) s

/-- Run a computation that cannot touch the state. -/
def lift (r : Except ε α) : EStateM ε σ α := fun s =>
  match r with
  | .ok a => .ok a s
  | .error e => .error e s

/-- Weakest precondition: `Q` after a normal return, `E` after a revert. -/
def wp (m : EStateM ε σ α) (s : σ) (Q : α → σ → Prop) (E : ε → σ → Prop) : Prop :=
  match m s with
  | .ok a s' => Q a s'
  | .error e s' => E e s'

/-- Partial correctness: if the program returns, `Q` holds. -/
abbrev Ensures (m : EStateM ε σ α) (s : σ) (Q : α → σ → Prop) : Prop :=
  wp m s Q (fun _ _ => True)

/-- Total correctness: the program returns and `Q` holds. -/
abbrev Returns (m : EStateM ε σ α) (s : σ) (Q : α → σ → Prop) : Prop :=
  wp m s Q (fun _ _ => False)

/-- The state the program ends in, reverted or not. -/
def final (m : EStateM ε σ α) (s : σ) : σ :=
  match m s with
  | .ok _ s' => s'
  | .error _ s' => s'

/-- Evaluates to what the program returns. -/
def result? (m : EStateM ε σ α) (s : σ) : Option α :=
  match m s with
  | .ok a _ => some a
  | .error _ _ => none

/-- Evaluates to what the program returns, with what `f` reads off the state it leaves. -/
def outcome? (m : EStateM ε σ α) (s : σ) (f : σ → β) : Option (α × β) :=
  match m s with
  | .ok a s' => some (a, f s')
  | .error _ _ => none

/-- Evaluates to the error the program reverts with. -/
def error? (m : EStateM ε σ α) (s : σ) : Option ε :=
  match m s with
  | .ok _ _ => none
  | .error e _ => some e

section Rules

variable {m : EStateM ε σ α} {s : σ} {Q : α → σ → Prop} {E : ε → σ → Prop}

theorem wp_mono {Q' : α → σ → Prop} {E' : ε → σ → Prop} (h : wp m s Q E)
    (hQ : ∀ a s', Q a s' → Q' a s') (hE : ∀ e s', E e s' → E' e s') : wp m s Q' E' := by
  unfold wp at h ⊢
  cases run : m s with
  | ok a s' => rw [run] at h; exact hQ a s' h
  | error e s' => rw [run] at h; exact hE e s' h

theorem wp_and {Q' : α → σ → Prop} {E' : ε → σ → Prop} (h : wp m s Q E) (h' : wp m s Q' E') :
    wp m s (fun a s' => Q a s' ∧ Q' a s') (fun e s' => E e s' ∧ E' e s') := by
  unfold wp at h h' ⊢
  cases run : m s with
  | ok a s' => rw [run] at h h'; exact ⟨h, h'⟩
  | error e s' => rw [run] at h h'; exact ⟨h, h'⟩

/-- Read a specification off a successful run. -/
theorem wp_ok {a : α} {s' : σ} (h : wp m s Q E) (run : m s = .ok a s') : Q a s' := by
  simpa only [wp, run] using h

/-- Read a specification off a reverted run. -/
theorem wp_error {e : ε} {s' : σ} (h : wp m s Q E) (run : m s = .error e s') : E e s' := by
  simpa only [wp, run] using h

/-- A run that is known decides the precondition. -/
theorem wp_of_ok {a : α} {s' : σ} (run : m s = .ok a s') (h : Q a s') : wp m s Q E := by
  unfold wp
  rw [run]
  exact h

theorem ensures_iff : Ensures m s Q ↔ ∀ a s', m s = .ok a s' → Q a s' := by
  constructor
  · intro h a s' run
    exact wp_ok h run
  · intro h
    unfold Ensures wp
    cases run : m s with
    | ok a s' => exact h a s' run
    | error e s' => trivial

theorem Ensures.mono {Q' : α → σ → Prop} (h : Ensures m s Q)
    (hQ : ∀ a s', Q a s' → Q' a s') : Ensures m s Q' :=
  wp_mono h hQ (fun _ _ _ => trivial)

/-- What is known beforehand. -/
theorem ensures_of {P : Prop} (h : P) : Ensures m s (fun _ _ => P) :=
  ensures_iff.mpr fun _ _ _ => h

theorem Returns.exists (h : Returns m s Q) : ∃ a s', m s = .ok a s' ∧ Q a s' := by
  unfold Returns wp at h
  cases run : m s with
  | ok a s' => rw [run] at h; exact ⟨a, s', rfl, h⟩
  | error e s' => rw [run] at h; exact h.elim

/-- A program that never returns reverts. -/
theorem exists_error (h : wp m s (fun _ _ => False) E) : ∃ e s', m s = .error e s' ∧ E e s' := by
  unfold wp at h
  cases run : m s with
  | ok a s' =>
      rw [run] at h
      exact h.elim
  | error e s' =>
      rw [run] at h
      exact ⟨e, s', rfl, h⟩

theorem exists_ok {a : α} (h : result? m s = some a) : ∃ s', m s = .ok a s' := by
  unfold result? at h
  cases run : m s with
  | ok b s' =>
      rw [run] at h
      cases h
      exact ⟨s', rfl⟩
  | error e s' =>
      rw [run] at h
      cases h

theorem exists_outcome {f : σ → β} {a : α} {b : β} (h : outcome? m s f = some (a, b)) :
    ∃ s', m s = .ok a s' ∧ f s' = b := by
  unfold outcome? at h
  cases run : m s with
  | ok a' s' =>
      rw [run] at h
      cases h
      exact ⟨s', rfl, rfl⟩
  | error e s' =>
      rw [run] at h
      cases h

theorem exists_revert {e : ε} (h : error? m s = some e) : ∃ s', m s = .error e s' := by
  unfold error? at h
  cases run : m s with
  | ok a s' =>
      rw [run] at h
      cases h
  | error e' s' =>
      rw [run] at h
      cases h
      exact ⟨s', rfl⟩

/-- A sequence succeeds through the result of its first part. -/
theorem exists_of_bind_ok {f : α → EStateM ε σ β} {b : β} {s' : σ} (run : (m >>= f) s = .ok b s') :
    ∃ a s₁, m s = .ok a s₁ ∧ f a s₁ = .ok b s' := by
  change EStateM.bind m f s = .ok b s' at run
  unfold EStateM.bind at run
  cases first : m s with
  | ok a s₁ =>
      rw [first] at run
      exact ⟨a, s₁, rfl, run⟩
  | error e s₁ =>
      rw [first] at run
      cases run

/-- A sequence goes on from what its first part returned. -/
theorem bind_of_ok {f : α → EStateM ε σ β} {a : α} {s' : σ} (run : m s = .ok a s') :
    (m >>= f) s = f a s' := by
  show EStateM.bind m f s = _
  unfold EStateM.bind
  rw [run]

@[simp] theorem wp_pure (a : α) : wp (pure a) s Q E ↔ Q a s := Iff.rfl

@[simp] theorem wp_throw (e : ε) : wp (throw e : EStateM ε σ α) s Q E ↔ E e s := Iff.rfl

@[simp] theorem wp_reads (f : σ → α) : wp (reads f : EStateM ε σ α) s Q E ↔ Q (f s) s := Iff.rfl

@[simp] theorem wp_modify {Q : PUnit → σ → Prop} (f : σ → σ) :
    wp (modify f : EStateM ε σ PUnit) s Q E ↔ Q ⟨⟩ (f s) := Iff.rfl

@[simp] theorem wp_bind {f : β → EStateM ε σ α} (n : EStateM ε σ β) :
    wp (n >>= f) s Q E ↔ wp n s (fun b s' => wp (f b) s' Q E) E := by
  show (match EStateM.bind n f s with | .ok a s' => Q a s' | .error e s' => E e s') ↔ _
  unfold wp EStateM.bind
  cases n s <;> rfl

@[simp] theorem wp_map {f : β → α} (n : EStateM ε σ β) :
    wp (f <$> n) s Q E ↔ wp n s (fun b s' => Q (f b) s') E := by
  show (match EStateM.map f n s with | .ok a s' => Q a s' | .error e s' => E e s') ↔ _
  unfold wp EStateM.map
  cases n s <;> rfl

@[simp] theorem wp_require {Q : PUnit → σ → Prop} (c : Prop) [Decidable c] (e : ε) :
    wp (require c e) s Q E ↔ (c → Q ⟨⟩ s) ∧ (¬ c → E e s) := by
  unfold require
  split <;> simp_all

@[simp] theorem wp_ite (c : Prop) [Decidable c] (n : EStateM ε σ α) :
    wp (if c then m else n) s Q E ↔ (c → wp m s Q E) ∧ (¬ c → wp n s Q E) := by
  split <;> simp_all

@[simp] theorem wp_lift_ok (a : α) : wp (lift (.ok a) : EStateM ε σ α) s Q E ↔ Q a s := Iff.rfl

@[simp] theorem wp_lift_error (e : ε) :
    wp (lift (.error e) : EStateM ε σ α) s Q E ↔ E e s := Iff.rfl

theorem wp_attempt [Rollback σ] {Q : Option α → σ → Prop} :
    wp (attempt m) s Q E ↔
      wp m s (fun a s' => Q (some a) s') (fun _ s' => Q none (Rollback.rollback s s')) := by
  unfold wp attempt
  cases m s <;> rfl

/-- The two arms of a `try`: the body's specification, and any rolled-back state. -/
theorem wp_attempt_of [Rollback σ] {Q : Option α → σ → Prop}
    (body : Ensures m s (fun a s' => Q (some a) s'))
    (caught : ∀ s', Q none (Rollback.rollback s s')) : wp (attempt m) s Q E :=
  wp_attempt.mpr (wp_mono body (fun _ _ h => h) (fun _ s' _ => caught s'))

end Rules

/-! ## Frames: relations kept by every outcome -/

/-- A relation between states that survives sequencing and rollback. -/
class Frame [Rollback σ] (R : σ → σ → Prop) : Prop where
  refl : ∀ s, R s s
  trans : ∀ {s t u}, R s t → R t u → R s u
  rollback : ∀ {s t}, R s t → R s (Rollback.rollback s t)

/-- Every outcome of `m`, reverted or not, is related to its start. -/
def Within (R : σ → σ → Prop) (m : EStateM ε σ α) : Prop :=
  ∀ s, wp m s (fun _ s' => R s s') (fun _ s' => R s s')

section Frames

variable [Rollback σ] {R : σ → σ → Prop} [Frame R] {m : EStateM ε σ α}

theorem Within.pure (a : α) : Within R (pure a : EStateM ε σ α) := fun s => Frame.refl s

theorem Within.throw (e : ε) : Within R (throw e : EStateM ε σ α) := fun s => Frame.refl s

theorem Within.reads (f : σ → α) : Within R (reads f : EStateM ε σ α) := fun s => Frame.refl s

theorem Within.require (c : Prop) [Decidable c] (e : ε) :
    Within R (require c e : EStateM ε σ PUnit) := by
  intro s
  simp only [wp_require]
  exact ⟨fun _ => Frame.refl s, fun _ => Frame.refl s⟩

theorem Within.lift (r : Except ε α) : Within R (lift r : EStateM ε σ α) := by
  intro s
  cases r <;> exact Frame.refl s

theorem Within.bind {n : EStateM ε σ β} {f : β → EStateM ε σ α} (hn : Within R n)
    (hf : ∀ b, Within R (f b)) : Within R (n >>= f) := by
  intro s
  rw [wp_bind]
  refine wp_mono (hn s) (fun b s' h => ?_) (fun _ _ h => h)
  exact wp_mono (hf b s') (fun _ _ h' => Frame.trans h h') (fun _ _ h' => Frame.trans h h')

omit [Rollback σ] [Frame R] in
theorem Within.map {n : EStateM ε σ β} {f : β → α} (hn : Within R n) : Within R (f <$> n) := by
  intro s
  rw [wp_map]
  exact hn s

/-- Knowing more about the first program's results. -/
theorem Within.bind_of {n : EStateM ε σ β} {f : β → EStateM ε σ α} {Q : β → Prop} (hn : Within R n)
    (result : ∀ s, Ensures n s (fun b _ => Q b)) (hf : ∀ b, Q b → Within R (f b)) :
    Within R (n >>= f) := by
  intro s
  rw [wp_bind]
  refine wp_mono (wp_and (hn s) (result s)) (fun b s' h => ?_) (fun _ _ h => h.1)
  exact wp_mono (hf b h.2 s') (fun _ _ h' => Frame.trans h.1 h') (fun _ _ h' => Frame.trans h.1 h')

/-- What a `require` lets through. -/
theorem Within.gate {c : Prop} [Decidable c] {e : ε} {f : PUnit → EStateM ε σ α}
    (passed : c → Within R (f ⟨⟩)) : Within R (Txn.require c e >>= f) := by
  apply Within.bind_of (Q := fun _ => c) (Within.require c e)
  · intro s
    simp only [Ensures, wp_require]
    exact ⟨fun holds => holds, fun _ => trivial⟩
  · exact fun _ => passed

omit [Rollback σ] [Frame R] in
theorem Within.ite {c : Prop} [Decidable c] {n : EStateM ε σ α} (hm : Within R m)
    (hn : Within R n) : Within R (if c then m else n) := by
  split
  · exact hm
  · exact hn

theorem Within.attempt (hm : Within R m) : Within R (attempt m) := by
  intro s
  rw [wp_attempt]
  exact wp_mono (hm s) (fun _ _ h => h) (fun _ _ h => Frame.rollback h)

omit [Rollback σ] [Frame R] in
theorem Within.ok {a : α} {s s' : σ} (hm : Within R m) (run : m s = .ok a s') : R s s' :=
  wp_ok (Q := fun _ s' => R s s') (hm s) run

omit [Rollback σ] [Frame R] in
theorem Within.final (hm : Within R m) (s : σ) : R s (Txn.final m s) := by
  have kept := hm s
  unfold wp at kept
  unfold Txn.final
  cases run : m s with
  | ok a s' =>
      rw [run] at kept
      exact kept
  | error e s' =>
      rw [run] at kept
      exact kept

omit [Rollback σ] [Frame R] in
theorem Within.ensures {s : σ} (hm : Within R m) : Ensures m s (fun _ s' => R s s') :=
  wp_mono (hm s) (fun _ _ h => h) (fun _ _ _ => trivial)

end Frames

/-! ## Errors -/

/-- Every revert of `m`, from any state, is with an error in `A`. -/
def Raises (A : ε → Prop) (m : EStateM ε σ α) : Prop :=
  ∀ s, wp m s (fun _ _ => True) (fun e _ => A e)

section Raises

variable {A : ε → Prop} {m : EStateM ε σ α}

theorem Raises.pure (a : α) : Raises A (pure a : EStateM ε σ α) := fun _ => trivial

theorem Raises.reads (f : σ → α) : Raises A (reads f : EStateM ε σ α) := fun _ => trivial

theorem Raises.throw {e : ε} (h : A e) : Raises A (throw e : EStateM ε σ α) := fun _ => h

theorem Raises.require {c : Prop} [Decidable c] {e : ε} (h : A e) :
    Raises A (require c e : EStateM ε σ PUnit) := by
  intro s
  simp only [wp_require]
  exact ⟨fun _ => trivial, fun _ => h⟩

theorem Raises.lift {r : Except ε α} (h : ∀ e, r = .error e → A e) :
    Raises A (lift r : EStateM ε σ α) := by
  intro s
  cases r with
  | ok a => trivial
  | error e => exact h e rfl

theorem Raises.bind {n : EStateM ε σ β} {f : β → EStateM ε σ α} (hn : Raises A n)
    (hf : ∀ b, Raises A (f b)) : Raises A (n >>= f) := by
  intro s
  rw [wp_bind]
  exact wp_mono (hn s) (fun b s' _ => hf b s') (fun _ _ h => h)

/-- What a `require` lets through, and what it stops. -/
theorem Raises.gate {c : Prop} [Decidable c] {e : ε} {f : PUnit → EStateM ε σ α}
    (passed : c → Raises A (f ⟨⟩)) (failed : ¬ c → A e) : Raises A (Txn.require c e >>= f) := by
  intro s
  simp only [wp_bind, wp_require]
  exact ⟨fun holds => passed holds s, failed⟩

theorem Raises.ite {c : Prop} [Decidable c] {n : EStateM ε σ α} (hm : Raises A m)
    (hn : Raises A n) : Raises A (if c then m else n) := by
  split
  · exact hm
  · exact hn

/-- An attempted call never reverts. -/
theorem Raises.attempt [Rollback σ] : Raises A (attempt m) := by
  intro s
  rw [wp_attempt]
  unfold wp
  split <;> trivial

/-- Knowing more about the first program's results. -/
theorem Raises.bind_of {n : EStateM ε σ β} {f : β → EStateM ε σ α} {Q : β → Prop} (hn : Raises A n)
    (result : ∀ s, Ensures n s (fun b _ => Q b)) (hf : ∀ b, Q b → Raises A (f b)) :
    Raises A (n >>= f) := by
  intro s
  rw [wp_bind]
  exact wp_mono (wp_and (hn s) (result s)) (fun b s' h => hf b h.2 s') (fun _ _ h => h.1)

theorem Raises.mono {B : ε → Prop} (h : Raises A m) (weaker : ∀ e, A e → B e) : Raises B m :=
  fun s => wp_mono (h s) (fun _ _ h => h) fun e _ => weaker e

theorem Raises.ne {e : ε} {s s' : σ} (h : Raises A m) (run : m s = .error e s') : A e :=
  wp_error (E := fun e _ => A e) (h s) run

end Raises

end Txn
