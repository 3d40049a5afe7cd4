import PropAMM.Router.Runs
import PropAMM.Router.Mocks

/-! # Slippage

A successful swap raises the recipient's holding of `tokenOut` by what it
returns, and returns at least the minimum. Measured balances telescope over the
legs; an ETH recipient is followed through every call instead, since native
payments are not measured.
-/

namespace PropAMM

open Txn FrontendFees

/-- What `who` holds of a token: native ETH for the sentinel. -/
def holding (token who : Address) (L : Ledger) : Nat :=
  if token = ethSentinel then L.native who else L.balance token who

theorem holding_sentinel (who : Address) (L : Ledger) : holding ethSentinel who L = L.native who :=
  if_pos rfl

theorem holding_token {token : Address} (h : token ≠ ethSentinel) (who : Address) (L : Ledger) :
    holding token who L = L.balance token who :=
  if_neg h

/-- What WETH owes the router for a call, in native ETH. -/
def ExtCall.withdrawn : ExtCall → Nat
  | .withdraw amount => amount
  | _ => 0

/-- `who` keeps the ETH it is sent. With `≤` no call spends it; with `=` no call
    moves it otherwise. WETH pays the router what it withdraws. -/
def KeepsETH (R : Nat → Nat → Prop) (x : Ctx) (who : Address) : Prop :=
  ∀ history c L ret L', x.env history c L = some (ret, L') →
    R (L.native who + if who = x.self then c.withdrawn else 0) (L'.native who)

/-- How a followed amount may move: it stays, or it may also grow. -/
structure Drift (R : Nat → Nat → Prop) : Prop where
  refl : ∀ a, R a a
  trans : ∀ {a b c}, R a b → R b c → R a c
  add : ∀ {a b} (k), R a b → R (a + k) (b + k)

theorem Drift.le : Drift (· ≤ ·) := ⟨Nat.le_refl, Nat.le_trans, fun k h => Nat.add_le_add_right h k⟩

/-- Nothing is followed. -/
theorem Drift.any : Drift fun _ _ => True :=
  ⟨fun _ => trivial, fun _ _ => trivial, fun _ _ => trivial⟩

theorem Drift.eq : Drift Eq := ⟨fun _ => rfl, Eq.trans, fun k h => congrArg (· + k) h⟩

section Follow

variable {R : Nat → Nat → Prop} {x : Ctx} {who : Address} {L L' : Ledger}

theorem Step.native (K : KeepsETH R x who) {c : ExtCall} (step : Step x c L L') :
    R ((L.pay x.self c.callee c.value).native who + if who = x.self then c.withdrawn else 0)
      (L'.native who) := by
  obtain ⟨history, ret, answer⟩ := step.answer
  exact K history c _ ret L' answer

/-- A call that neither carries nor releases ETH. -/
theorem Step.native_idle (K : KeepsETH R x who) {c : ExtCall} (step : Step x c L L')
    (carries : c.value = 0 := by rfl) (releases : c.withdrawn = 0 := by rfl) :
    R (L.native who) (L'.native who) := by
  have follows := step.native K
  rw [carries, releases, Ledger.pay_zero, ite_self, Nat.add_zero] at follows
  exact follows

theorem Step.native_sent (K : KeepsETH R x who) {amount : Nat}
    (step : Step x (.sendValue who amount) L L') : R (L.native who + amount) (L'.native who) := by
  have away : who ≠ x.self := step.foreign
  have follows := step.native K
  simp only [ExtCall.callee, ExtCall.value, Ledger.pay_native, if_neg away, if_true,
    Nat.add_zero] at follows
  exact follows

theorem Dispatched.native (D : Drift R) (K : KeepsETH R x who)
    {venue tokenIn tokenOut payer recipient : Address}
    {amountIn amountOutMin deadline prev out : Nat}
    (h : Dispatched x venue tokenIn tokenOut amountIn amountOutMin payer recipient deadline
      prev L out L') :
    R (L.native who) (L'.native who) := by
  obtain ⟨L₁, pushed, swapped⟩ := h.calls
  have push : R (L.native who) (L₁.native who) := by
    unfold pushCall at pushed
    split at pushed
    · exact pushed.native_idle K
    · exact pushed.native_idle K
  exact D.trans push (swapped.native_idle K)

theorem Exchanged.native (D : Drift R) (K : KeepsETH R x who)
    {tokenIn tokenOut recipient swapRouter : Address} {fee amountIn amountOutMinimum : Nat}
    (h : Exchanged x tokenIn tokenOut fee amountIn amountOutMinimum recipient swapRouter L L') :
    R (L.native who) (L'.native who) := by
  obtain ⟨L₁, L₂, approved, swapped, reset⟩ := h.calls
  have before : R (L.native who) (L₂.native who) :=
    D.trans (approved.native_idle K) (swapped.native_idle K)
  exact D.trans before (reset.native_idle K)

/-- Unwrapped proceeds arrive in full, at the router itself or at the account they are sent to. -/
theorem Forwarded.native (D : Drift R) (K : KeepsETH R x who) {amount : Nat}
    (h : Forwarded x ethSentinel who amount L L') : R (L.native who + amount) (L'.native who) := by
  rw [Forwarded, if_pos rfl] at h
  obtain ⟨L₁, withdrawn, sent⟩ := h
  have release := withdrawn.native K
  rw [show (ExtCall.withdraw amount).value = 0 from rfl, Ledger.pay_zero] at release
  by_cases here : who = x.self
  · rw [if_pos here] at release sent
    rw [sent]
    exact release
  · rw [if_neg here, Nat.add_zero] at release
    rw [if_neg here] at sent
    exact D.trans (D.add amount release) (sent.native_sent K)

theorem LegRuns.native (D : Drift R) (K : KeepsETH R x who) {r : LegRun} {legs : List Leg}
    {filled : List (Leg × Nat)} {absorbed : Nat} (runs : LegRuns x r legs L filled absorbed L') :
    R (L.native who) (L'.native who) := by
  induction runs with
  | nil => exact D.refl _
  | routed _ _ ih => exact ih
  | filled _ run _ ih => exact D.trans (run.native D K) ih
  | failed _ _ _ ih => exact ih

theorem Absorbed.native (D : Drift R) (K : KeepsETH R x who) {r : LegRun}
    {absorbed delivered out : Nat} (h : Absorbed x r absorbed delivered L out L') :
    R (L.native who) (L'.native who) := by
  unfold Absorbed at h
  split at h
  · rw [h.2]
    exact D.refl _
  · exact h.1.native D K

end Follow

section Received

variable {R : Nat → Nat → Prop} {x : Ctx} {L L' : Ledger}

/-- The measured deltas of the filled legs add up to one delta. -/
theorem LegRuns.measured {r : LegRun} {legs : List Leg} {filled : List (Leg × Nat)} {absorbed : Nat}
    (runs : LegRuns x r legs L filled absorbed L') :
    L'.balance r.tokenOut_ (r.measuredAt x) =
      L.balance r.tokenOut_ (r.measuredAt x) + deliveredBy filled := by
  induction runs with
  | nil => rfl
  | routed _ _ ih => exact ih
  | filled _ run _ ih =>
      have here := run.measured
      rw [deliveredBy_cons]
      omega
  | failed _ _ _ ih => exact ih

theorem Absorbed.measured {r : LegRun} {absorbed delivered out : Nat}
    (h : Absorbed x r absorbed delivered L out L') :
    L'.balance r.tokenOut_ (r.measuredAt x) = L.balance r.tokenOut_ (r.measuredAt x) + out := by
  unfold Absorbed at h
  split at h
  · rw [h.1, h.2, Nat.add_zero]
  · exact h.2.1

theorem CoreExecuted.received (D : Drift R) {venue tokenIn_ payer executed : Address}
    {a : SwapArgs} {out : Nat} (K : a.tokenOut = ethSentinel → KeepsETH R x a.recipient)
    (h : CoreExecuted x venue a tokenIn_ payer L out executed L') :
    a.amountOutMin ≤ out ∧ R (holding a.tokenOut a.recipient L + out)
      (holding a.tokenOut a.recipient L') := by
  by_cases eth : a.tokenOut = ethSentinel
  · have K := K eth
    rw [eth, holding_sentinel, holding_sentinel]
    rcases h with ⟨_, filled⟩ | ⟨_, fellBack⟩
    · obtain ⟨L₁, dispatched, forwarded⟩ := filled.calls
      rw [eth] at forwarded
      exact ⟨dispatched.enough, D.trans (D.add out (dispatched.native D K)) (forwarded.native D K)⟩
    · obtain ⟨L₁, L₂, pulled, exchanged, _, forwarded⟩ := fellBack.calls
      rw [eth] at forwarded
      have start : R (L.native a.recipient) (L₁.native a.recipient) := by
        split at pulled
        · rw [pulled]
          exact D.refl _
        · exact pulled.native_idle K
      have run := D.trans start (exchanged.native D K)
      exact ⟨fellBack.enough, D.trans (D.add out run) (forwarded.native D K)⟩
  · rw [holding_token eth, holding_token eth]
    -- A token is measured where it is delivered, and nothing is forwarded.
    have there : measuredAt x a.tokenOut a.recipient = a.recipient := if_neg eth
    rcases h with ⟨_, filled⟩ | ⟨_, fellBack⟩
    · obtain ⟨L₁, dispatched, forwarded⟩ := filled.calls
      rw [Forwarded, if_neg eth] at forwarded
      have measured := dispatched.measured
      rw [there, resolveToken_token eth] at measured
      rw [forwarded, measured]
      exact ⟨dispatched.enough, D.refl _⟩
    · obtain ⟨L₁, L₂, _, _, measured, forwarded⟩ := fellBack.calls
      rw [Forwarded, if_neg eth] at forwarded
      rw [there, resolveToken_token eth] at measured
      rw [forwarded, measured]
      exact ⟨fellBack.enough, D.refl _⟩

theorem LegsExecuted.received (D : Drift R) {a : SwapArgs} {amountOutMin : Nat} {payTo : Address}
    {legs : List Leg} {f : SplitFill} (K : a.tokenOut = ethSentinel → KeepsETH R x payTo)
    (h : LegsExecuted x (legRunOf a amountOutMin payTo) legs L f L') :
    amountOutMin ≤ f.total ∧ R (holding a.tokenOut payTo L + f.total)
      (holding a.tokenOut payTo L') := by
  obtain ⟨L₁, L₂, runs, absorbed, forwarded⟩ := h.calls
  refine ⟨h.enough, ?_⟩
  change Forwarded x a.tokenOut payTo f.total L₂ L' at forwarded
  by_cases eth : a.tokenOut = ethSentinel
  · have K := K eth
    rw [eth] at forwarded
    rw [eth, holding_sentinel, holding_sentinel]
    have run := D.trans (runs.native D K) (absorbed.native D K)
    exact D.trans (D.add f.total run) (forwarded.native D K)
  · rw [Forwarded, if_neg eth] at forwarded
    rw [holding_token eth, holding_token eth, forwarded]
    have there : (legRunOf a amountOutMin payTo).measuredAt x = payTo := if_neg eth
    have token : (legRunOf a amountOutMin payTo).tokenOut_ = a.tokenOut := resolveToken_token eth
    have legsOut := runs.measured
    have uniOut := absorbed.measured
    rw [there, token] at legsOut uniOut
    rw [uniOut, legsOut, Nat.add_assoc]
    exact D.refl _

theorem Disbursed.received (D : Drift R) {tokenOut recipient : Address} {net out : Nat}
    (K : tokenOut = ethSentinel → KeepsETH R x recipient)
    (h : Disbursed x tokenOut recipient net L out L') :
    R (holding tokenOut recipient L + out) (holding tokenOut recipient L') := by
  obtain ⟨paid, measured⟩ := h
  by_cases eth : tokenOut = ethSentinel
  · rw [if_pos eth] at measured
    rw [eth, holding_sentinel, holding_sentinel, measured]
    rw [Paid, paymentCall, if_pos eth] at paid
    split at paid
    · rename_i none
      rw [paid, none]
      exact D.refl _
    · exact Step.native_sent (K eth) paid
  · rw [if_neg eth] at measured
    rw [holding_token eth, holding_token eth, measured]
    exact D.refl _

/-- Whatever the shape of the call, its return value reaches the recipient. -/
theorem Completed.received (D : Drift R) {call : SwapCall} {s s' : ChainState} {out : Nat}
    (K : call.args.tokenOut = ethSentinel → KeepsETH R x call.args.recipient)
    (h : Completed x call s out s') :
    call.args.amountOutMin ≤ out ∧
      R (holding call.args.tokenOut call.args.recipient s'.mark + out)
        (holding call.args.tokenOut call.args.recipient s'.ledger) := by
  unfold Completed at h
  split at h
  · obtain ⟨_, _, _, _, swapped, _⟩ := h.quoted
    exact swapped.run.received D K
  · obtain ⟨_, _, _, _, _, _, _, _, _, _, paid, _⟩ := h.quoted
    exact ⟨paid.enough, paid.disbursed.received D K⟩
  · obtain ⟨f, total, filled, _⟩ := h.filled
    obtain ⟨_, _, _, _, _, _, executed⟩ := filled.run
    rw [total]
    exact executed.received D K
  · obtain ⟨_, _, _, _, _, _, paid, _⟩ := h.filled
    exact ⟨paid.enough, paid.disbursed.received D K⟩

end Received

/-- The mocks' accounts never spend ETH, WETH apart. -/
theorem Mocks.keepsETH (m : Mocks) (whitelist : EnumerableSet Address) (sender : Address)
    (value : Nat) {who : Address} (other : who ≠ weth) :
    KeepsETH Eq (m.ctx whitelist sender value) who := by
  intro history c L ret L' answer
  change m.env history c L = some (ret, L') at answer
  cases c with
  | withdraw amount =>
      simp only [Mocks.env] at answer
      split at answer
      · cases answer
      · cases answer
        simp only [Ledger.pay_native, Ledger.debit_native, if_neg other, ExtCall.withdrawn]
        rfl
  | safeTransfer token target amount =>
      obtain ⟨K, transferred, rest⟩ := Option.map_eq_some_iff.mp answer
      cases rest
      simp [ExtCall.withdrawn, Mocks.transfer_native transferred]
  | safeTransferFrom token source target amount =>
      obtain ⟨K, transferred, rest⟩ := Option.map_eq_some_iff.mp answer
      cases rest
      simp [ExtCall.withdrawn, Mocks.transferFrom_native transferred]
  | sendValue target amount =>
      cases answer
      by_cases wraps : target = weth <;> simp [ExtCall.withdrawn, wraps]
  | quote venue tokenIn tokenOut amountIn =>
      simp only [Mocks.env] at answer
      split at answer
      · cases answer
      · obtain ⟨q, _, rest⟩ := Option.map_eq_some_iff.mp answer
        cases rest
        simp [ExtCall.withdrawn]
  | quoteFillable venue tokenIn tokenOut amountIn =>
      obtain ⟨q, _, rest⟩ := Option.map_eq_some_iff.mp answer
      cases rest
      simp [ExtCall.withdrawn]
  | swap venue tokenIn tokenOut amountIn minAmountOut recipient deadline =>
      obtain ⟨out, _, rest⟩ := Option.map_eq_some_iff.mp answer
      cases rest
      simp [ExtCall.withdrawn]
  | quoteExactInputSingle quoter tokenIn tokenOut amountIn fee =>
      obtain ⟨q, _, rest⟩ := Option.map_eq_some_iff.mp answer
      cases rest
      simp [ExtCall.withdrawn]
  | exactInputSingle swapRouter tokenIn tokenOut fee recipient amountIn amountOutMinimum =>
      obtain ⟨K, transferred, rest⟩ := Option.bind_eq_some_iff.mp answer
      obtain ⟨out, _, rest⟩ := Option.bind_eq_some_iff.mp rest
      cases rest
      simp [ExtCall.withdrawn, Mocks.transferFrom_native transferred]
  | forceApprove token spender amount =>
      cases answer
      simp [ExtCall.withdrawn]
  | deposit amount =>
      cases answer
      simp [ExtCall.withdrawn]
  | supportsInterface venue =>
      cases answer
      simp [ExtCall.withdrawn]

/-- Slippage safety of every swap entrypoint. `s'.mark` is the ledger on which the
    execution, or the disbursement of a fee form, began. -/
theorem swap_delivers {x : Ctx} {call : SwapCall} {s s' : ChainState} {amountOut : Nat}
    (run : call.run x s = .ok amountOut s') :
    call.args.amountOutMin ≤ amountOut ∧
      (call.args.tokenOut ≠ ethSentinel →
        s'.ledger.balance call.args.tokenOut call.args.recipient =
          s'.mark.balance call.args.tokenOut call.args.recipient + amountOut) ∧
      (call.args.tokenOut = ethSentinel → KeepsETH (· ≤ ·) x call.args.recipient →
        s'.mark.native call.args.recipient + amountOut ≤ s'.ledger.native call.args.recipient) ∧
      (call.args.tokenOut = ethSentinel → KeepsETH Eq x call.args.recipient →
        s'.mark.native call.args.recipient + amountOut = s'.ledger.native call.args.recipient) := by
  have completed := completed_of_run run
  refine ⟨?_, ?_, ?_, ?_⟩
  · exact (completed.received Drift.any (fun _ _ _ _ _ _ _ => trivial)).1
  · intro token
    have received := (completed.received Drift.eq (fun eth => absurd eth token)).2
    rw [holding_token token, holding_token token] at received
    exact received.symm
  · intro eth kept
    have received := (completed.received (x := x.enter) Drift.le (fun _ => kept)).2
    rw [eth, holding_sentinel, holding_sentinel] at received
    exact received
  · intro eth kept
    have received := (completed.received (x := x.enter) Drift.eq (fun _ => kept)).2
    rw [eth, holding_sentinel, holding_sentinel] at received
    exact received

/-- A split over a venue that fills at two for one, one that quotes and then
    refuses, and Uniswap; and the same into ETH. -/
def sampleSplit (tokenOut : Address) : SwapCall := .swapSplitV1 ⟨0x11, tokenOut, 100, 90, 0xBE, 10⟩

def sampleMocks : Mocks :=
  { Mocks.plain fun venue n => if venue = 0xA1 then some (2 * n)
      else if venue = 0xA2 then some (3 * min n 10) else none with
    amountOutToDeliver := fun venue n => if venue = 0xA1 then some (2 * n) else none }

def sampleCtx : Ctx := sampleMocks.ctx ⟨[0xA1, 0xA2], by decide⟩ 0xCA 0

theorem swap_delivers_sample :
    (∃ s', (sampleSplit 0x22).run sampleCtx (.start (.funded 1000)) = .ok 194 s' ∧
      90 ≤ 194 ∧ s'.ledger.balance 0x22 0xBE = s'.mark.balance 0x22 0xBE + 194) ∧
    ∃ s', (sampleSplit ethSentinel).run sampleCtx (.start (.funded 1000)) = .ok 194 s' ∧
      90 ≤ 194 ∧ s'.mark.native 0xBE + 194 = s'.ledger.native 0xBE := by
  constructor
  · obtain ⟨s', run⟩ := exists_ok (m := (sampleSplit 0x22).run sampleCtx)
      (s := .start (.funded 1000)) (a := 194) (by decide +kernel)
    have delivers := swap_delivers run
    exact ⟨s', run, delivers.1, delivers.2.1 (by decide)⟩
  · obtain ⟨s', run⟩ := exists_ok (m := (sampleSplit ethSentinel).run sampleCtx)
      (s := .start (.funded 1000)) (a := 194) (by decide +kernel)
    have delivers := swap_delivers run
    exact ⟨s', run, delivers.1, delivers.2.2.2 rfl (sampleMocks.keepsETH _ _ _ (by decide))⟩

end PropAMM
