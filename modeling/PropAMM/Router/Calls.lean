import PropAMM.Router.Chain

/-! # External calls and checked arithmetic

The primitives every router function is built from, each with its `wp` rule.
-/

namespace PropAMM

open Txn

/-! ## Checked arithmetic (Solidity 0.8) -/

/-- A computation that cannot touch the state but may revert. -/
abbrev Checked := Except RouterError

@[simp] theorem ok_bind {α β : Type} (a : α) (f : α → Checked β) : (Except.ok a >>= f) = f a := rfl

def checkedAdd (a b : Nat) : Checked Nat :=
  if a + b < 2 ^ 256 then .ok (a + b) else .error (.panicked 0x11)

def checkedSub (a b : Nat) : Checked Nat :=
  if b ≤ a then .ok (a - b) else .error (.panicked 0x11)

def checkedMul (a b : Nat) : Checked Nat :=
  if a * b < 2 ^ 256 then .ok (a * b) else .error (.panicked 0x11)

def checkedDiv (a b : Nat) : Checked Nat :=
  if b = 0 then .error (.panicked 0x12) else .ok (a / b)

theorem checkedAdd_ok {a b : Nat} (h : a + b < 2 ^ 256) : checkedAdd a b = .ok (a + b) := if_pos h

theorem checkedSub_ok {a b : Nat} (h : b ≤ a) : checkedSub a b = .ok (a - b) := if_pos h

theorem checkedMul_ok {a b : Nat} (h : a * b < 2 ^ 256) : checkedMul a b = .ok (a * b) := if_pos h

theorem checkedDiv_ok {a b : Nat} (h : b ≠ 0) : checkedDiv a b = .ok (a / b) := if_neg h

section Arithmetic

variable {a b : Nat} {s : ChainState} {Q : Nat → ChainState → Prop}
  {E : RouterError → ChainState → Prop}

@[simp] theorem wp_checkedAdd : wp (lift (checkedAdd a b)) s Q E ↔
    (a + b < 2 ^ 256 → Q (a + b) s) ∧ (¬ a + b < 2 ^ 256 → E (.panicked 0x11) s) := by
  unfold checkedAdd
  split <;> simp_all

@[simp] theorem wp_checkedSub : wp (lift (checkedSub a b)) s Q E ↔
    (b ≤ a → Q (a - b) s) ∧ (¬ b ≤ a → E (.panicked 0x11) s) := by
  unfold checkedSub
  split <;> simp_all

@[simp] theorem wp_checkedMul : wp (lift (checkedMul a b)) s Q E ↔
    (a * b < 2 ^ 256 → Q (a * b) s) ∧ (¬ a * b < 2 ^ 256 → E (.panicked 0x11) s) := by
  unfold checkedMul
  split <;> simp_all

end Arithmetic

/-! ## Calling other contracts -/

namespace ChainState

def recorded (s : ChainState) (c : ExtCall) : ChainState := { s with trace := c :: s.trace }

/-- The state after `c` returned and left `ledger` behind. -/
def called (s : ChainState) (c : ExtCall) (ledger : Ledger) : ChainState :=
  { s with trace := c :: s.trace, ledger }

def emitted (s : ChainState) (e : Event) : ChainState := { s with logs := s.logs ++ [e] }

@[simp] theorem called_ledger (s : ChainState) (c : ExtCall) (L : Ledger) :
    (s.called c L).ledger = L := rfl
@[simp] theorem called_logs (s : ChainState) (c : ExtCall) (L : Ledger) :
    (s.called c L).logs = s.logs := rfl
@[simp] theorem called_mark (s : ChainState) (c : ExtCall) (L : Ledger) :
    (s.called c L).mark = s.mark := rfl
@[simp] theorem called_trace (s : ChainState) (c : ExtCall) (L : Ledger) :
    (s.called c L).trace = c :: s.trace := rfl
@[simp] theorem emitted_ledger (s : ChainState) (e : Event) : (s.emitted e).ledger = s.ledger := rfl
@[simp] theorem emitted_logs (s : ChainState) (e : Event) : (s.emitted e).logs = s.logs ++ [e] :=
  rfl
@[simp] theorem emitted_mark (s : ChainState) (e : Event) : (s.emitted e).mark = s.mark := rfl
@[simp] theorem emitted_trace (s : ChainState) (e : Event) : (s.emitted e).trace = s.trace := rfl

end ChainState

section Rollback

variable (s t : ChainState)

@[simp] theorem rollback_ledger : (Rollback.rollback s t).ledger = s.ledger := rfl
@[simp] theorem rollback_logs : (Rollback.rollback s t).logs = s.logs := rfl
@[simp] theorem rollback_mark : (Rollback.rollback s t).mark = s.mark := rfl
@[simp] theorem rollback_trace : (Rollback.rollback s t).trace = t.trace := rfl

end Rollback

/-- A high-level call. The attached value moves before the callee's code runs, and what
    the callee reverts with is passed on, as `external` whatever it is.
    The router itself answers none of these selectors, and its `receive` takes
    ETH from WETH only, so a call to itself reverts. -/
def callExternal (x : Ctx) (c : ExtCall) : RouterM (List Word) := fun s =>
  if c.callee = x.self ∨ s.ledger.native x.self < c.value then .error .external (s.recorded c)
  else match x.env s.trace c (s.ledger.pay x.self c.callee c.value) with
    | some (ret, ledger) => .ok ret (s.called c ledger)
    | none => .error .external (s.recorded c)

/-- The environment accepts `c` and answers `ret`, leaving `L` behind. -/
structure Accepts (x : Ctx) (c : ExtCall) (s : ChainState) (ret : List Word) (L : Ledger) :
    Prop where
  foreign : c.callee ≠ x.self
  funded : c.value ≤ s.ledger.native x.self
  answer : x.env s.trace c (s.ledger.pay x.self c.callee c.value) = some (ret, L)

@[simp] theorem accepts_selfCall {x : Ctx} {c : ExtCall} {s : ChainState} {ret : List Word}
    {L : Ledger} : Accepts x.selfCall c s ret L ↔ Accepts x c s ret L :=
  ⟨fun h => ⟨h.foreign, h.funded, h.answer⟩, fun h => ⟨h.foreign, h.funded, h.answer⟩⟩

@[simp] theorem accepts_enter {x : Ctx} {c : ExtCall} {s : ChainState} {ret : List Word}
    {L : Ledger} : Accepts x.enter c s ret L ↔ Accepts x c s ret L :=
  ⟨fun h => ⟨h.foreign, h.funded, h.answer⟩, fun h => ⟨h.foreign, h.funded, h.answer⟩⟩

theorem wp_callExternal {x : Ctx} {c : ExtCall} {s : ChainState} {Q : List Word → ChainState → Prop}
    {E : RouterError → ChainState → Prop}
    (accepted : ∀ ret L, Accepts x c s ret L → Q ret (s.called c L))
    (refused : E .external (s.recorded c)) : wp (callExternal x c) s Q E := by
  unfold wp callExternal
  by_cases own : c.callee = x.self ∨ s.ledger.native x.self < c.value
  · rw [if_pos own]
    exact refused
  · rw [if_neg own]
    cases answer : x.env s.trace c (s.ledger.pay x.self c.callee c.value) with
    | none => exact refused
    | some reply =>
        obtain ⟨foreign, funded⟩ := not_or.mp own
        exact accepted reply.1 reply.2 ⟨foreign, Nat.le_of_not_lt funded, answer⟩

theorem Accepts.run {x : Ctx} {c : ExtCall} {s : ChainState} {ret : List Word} {L : Ledger}
    (h : Accepts x c s ret L) : callExternal x c s = .ok ret (s.called c L) := by
  unfold callExternal
  rw [if_neg (not_or.mpr ⟨h.foreign, Nat.not_lt.mpr h.funded⟩), h.answer]

theorem wp_of_accepts {x : Ctx} {c : ExtCall} {s : ChainState} {ret : List Word} {L : Ledger}
    {Q : List Word → ChainState → Prop} {E : RouterError → ChainState → Prop}
    (accepted : Accepts x c s ret L) (h : Q ret (s.called c L)) : wp (callExternal x c) s Q E := by
  unfold wp
  rw [accepted.run]
  exact h

@[simp] theorem ensures_callExternal {x : Ctx} {c : ExtCall} {s : ChainState}
    {Q : List Word → ChainState → Prop} :
    wp (callExternal x c) s Q (fun _ _ => True) ↔ ∀ ret L, Accepts x c s ret L →
    Q ret (s.called c L) :=
  ⟨fun h _ _ accepted => wp_ok h accepted.run, fun h => wp_callExternal h trivial⟩

/-! ## Returned data -/

def uintOf : List Word → Option Nat
  | w :: _ => some w.toNat
  | [] => none

def uintPairOf : List Word → Option (Nat × Nat)
  | v :: w :: _ => some (v.toNat, w.toNat)
  | _ => none

/-- QuoterV2's `(uint256, uint160, uint32, uint256)`, of which only the first is
    used; the narrower ones must still fit. -/
def quoterOutOf : List Word → Option Nat
  | amountOut :: sqrtPriceX96After :: initializedTicksCrossed :: _ :: _ =>
    if sqrtPriceX96After.toNat < 2 ^ 160 ∧ initializedTicksCrossed.toNat < 2 ^ 32 then
      some amountOut.toNat
    else none
  | _ => none

/-- Malformed data reverts in the caller's own frame. -/
def decode {α : Type} : Option α → RouterM α
  | some a => pure a
  | none => throw .external

@[simp] theorem wp_decode {α : Type} {r : Option α} {s : ChainState} {Q : α → ChainState → Prop}
    {E : RouterError → ChainState → Prop} :
    wp (decode r) s Q E ↔ (∀ a, r = some a → Q a s) ∧ (r = none → E .external s) := by
  cases r <;> simp [decode]

def balanceOf (token who : Address) : RouterM Nat := reads fun s => s.ledger.balance token who

def emit (e : Event) : RouterM PUnit := modify fun s => s.emitted e

/-- Ghost statement: the execution phase begins here. -/
def beginExecution : RouterM PUnit := modify fun s => { s with mark := s.ledger }

/-- `(bool ok,) = target.call{value: amount}("")` -/
def callValue (x : Ctx) (target : Address) (amount : Nat) : RouterM Bool := do
  match ← attempt (callExternal x (.sendValue target amount)) with
  | some _ => pure true
  | none => pure false

/-- A native payment whose failure is bubbled up. -/
def sendETH (x : Ctx) (target : Address) (amount : Nat) : RouterM PUnit := do
  let ok ← callValue x target amount
  require (ok = true) .ethTransferFailed

section Primitives

variable {s : ChainState} {E : RouterError → ChainState → Prop}

@[simp] theorem wp_balanceOf {token who : Address} {Q : Nat → ChainState → Prop} :
    wp (balanceOf token who) s Q E ↔ Q (s.ledger.balance token who) s := Iff.rfl

@[simp] theorem wp_emit {e : Event} {Q : PUnit → ChainState → Prop} :
    wp (emit e) s Q E ↔ Q ⟨⟩ (s.emitted e) := Iff.rfl

@[simp] theorem wp_beginExecution {Q : PUnit → ChainState → Prop} :
    wp beginExecution s Q E ↔ Q ⟨⟩ { s with mark := s.ledger } := Iff.rfl

theorem ensures_sendETH {x : Ctx} {target : Address} {amount : Nat} {Q : PUnit → ChainState → Prop}
    (sent : ∀ ret L, Accepts x (.sendValue target amount) s ret L →
      Q ⟨⟩ (s.called (.sendValue target amount) L)) : Ensures (sendETH x target amount) s Q := by
  simp only [sendETH, callValue, Ensures, wp_bind]
  apply wp_attempt_of
  · simp only [Ensures, ensures_callExternal]
    intro ret L accepted
    simpa using sent ret L accepted
  · intro failed
    simp

end Primitives

end PropAMM
