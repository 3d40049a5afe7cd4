import PropAMM.Router.Frames

/-! # What a successful execution consists of

One inversion per executing function, stated on ledgers: the calls that were
accepted, in order, and the balances that were measured. A caught failure does
not appear, since it left the ledger as it was.
-/

namespace PropAMM

open Txn FrontendFees

/-- The environment accepted `c` on `L`, at some point of some history. -/
structure Step (x : Ctx) (c : ExtCall) (L L' : Ledger) : Prop where
  foreign : c.callee ≠ x.self
  funded : c.value ≤ L.native x.self
  answer : ∃ history ret, x.env history c (L.pay x.self c.callee c.value) = some (ret, L')

theorem Accepts.step {x : Ctx} {c : ExtCall} {s : ChainState} {ret : List Word} {L : Ledger}
    (h : Accepts x c s ret L) : Step x c s.ledger L :=
  ⟨h.foreign, h.funded, s.trace, ret, h.answer⟩

@[simp] theorem step_enter {x : Ctx} {c : ExtCall} {L L' : Ledger} :
    Step x.enter c L L' ↔ Step x c L L' :=
  ⟨fun h => ⟨h.foreign, h.funded, h.answer⟩, fun h => ⟨h.foreign, h.funded, h.answer⟩⟩

/-- Neither the logs nor the mark moved. -/
def Silent (s s' : ChainState) : Prop := s'.logs = s.logs ∧ s'.mark = s.mark

/-! ## One venue -/

def pushCall (x : Ctx) (venue tokenIn : Address) (amountIn : Nat) (payer : Address) : ExtCall :=
  if payer = x.self then .safeTransfer tokenIn venue amountIn
  else .safeTransferFrom tokenIn payer venue amountIn

structure Dispatched (x : Ctx) (venue tokenIn tokenOut : Address) (amountIn amountOutMin : Nat)
    (payer recipient : Address) (deadline prev : Nat) (L : Ledger) (out : Nat) (L' : Ledger) :
    Prop where
  listed : x.storage.isWhitelistedVenue venue
  calls : ∃ L₁, Step x (pushCall x venue tokenIn amountIn payer) L L₁ ∧
    Step x (.swap venue tokenIn tokenOut amountIn amountOutMin recipient deadline) L₁ L'
  measured : L'.balance tokenOut recipient = prev + out
  enough : amountOutMin ≤ out

theorem ensures_dispatchVenue {x : Ctx} {venue tokenIn tokenOut : Address}
    {amountIn amountOutMin : Nat} {payer recipient : Address} {deadline prev : Nat}
    {s : ChainState} :
    Ensures (dispatchVenue x.selfCall venue tokenIn tokenOut amountIn amountOutMin payer
      recipient deadline prev) s
        (fun out s' => Dispatched x venue tokenIn tokenOut amountIn amountOutMin payer recipient
        deadline prev s.ledger out s'.ledger ∧ Silent s s') := by
  simp only [dispatchVenue, Ensures, wp_bind, wp_require, ensures_callExternal,
    accepts_selfCall, wp_decode, wp_balanceOf, wp_checkedSub, wp_pure, implies_true, and_true]
  intro _ listed ret₁ L₁ pushed ret₂ L₂ swapped w _ covered enough
  refine ⟨⟨listed, ⟨L₁, pushed.step, swapped.step⟩, ?_, enough⟩, rfl, rfl⟩
  simp only [ChainState.called_ledger] at covered ⊢
  omega

/-- From `s` a listed venue takes its input, answers the swap, and `recipient` ends up
    with `out` more. -/
structure Executes (x : Ctx) (venue tokenIn tokenOut : Address) (amountIn amountOutMin : Nat)
    (payer recipient : Address) (deadline out : Nat) (s : ChainState) : Prop where
  listed : x.storage.isWhitelistedVenue venue
  calls : ∃ ret L₁ ret' L₂, Accepts x (pushCall x venue tokenIn amountIn payer) s ret L₁ ∧
    Accepts x (.swap venue tokenIn tokenOut amountIn amountOutMin recipient deadline)
      (s.called (pushCall x venue tokenIn amountIn payer) L₁) ret' L₂ ∧
    (uintOf ret').isSome ∧ L₂.balance tokenOut recipient = s.ledger.balance tokenOut recipient + out

/-- What decides over an executed swap is the measured output against the minimum. -/
theorem Executes.wp_dispatchVenue {x : Ctx} {venue tokenIn tokenOut : Address}
    {amountIn amountOutMin : Nat} {payer recipient : Address} {deadline out : Nat} {s : ChainState}
    (h : Executes x venue tokenIn tokenOut amountIn amountOutMin payer recipient deadline out s) :
    wp (dispatchVenue x.selfCall venue tokenIn tokenOut amountIn amountOutMin payer
      recipient deadline (s.ledger.balance tokenOut recipient)) s
        (fun got _ => got = out ∧ amountOutMin ≤ out)
      (fun e _ => e = .insufficientOutput amountOutMin out ∧ out < amountOutMin) := by
  obtain ⟨ret, L₁, ret', L₂, pushed, swapped, answered, credited⟩ := h.calls
  obtain ⟨w, decoded⟩ := Option.isSome_iff_exists.mp answered
  simp only [dispatchVenue, wp_bind, wp_require]
  refine ⟨fun _ => ⟨fun _ => ?_, fun unlisted => absurd h.listed unlisted⟩,
    fun other => absurd rfl other⟩
  apply wp_of_accepts (accepts_selfCall.mpr pushed)
  apply wp_of_accepts (accepts_selfCall.mpr swapped)
  have measured : checkedSub (s.ledger.balance tokenOut recipient + out)
      (s.ledger.balance tokenOut recipient) = .ok out := by
    rw [checkedSub_ok (Nat.le_add_right _ _), Nat.add_sub_cancel_left]
  simp only [decoded, wp_decode, wp_balanceOf, ChainState.called_ledger, credited,
    measured, wp_lift_ok, wp_pure, reduceCtorEq, false_imp_iff, and_true]
  intro _ _
  exact ⟨fun enough => ⟨trivial, enough⟩, fun short => ⟨trivial, Nat.lt_of_not_ge short⟩⟩

theorem Executes.dispatchVenue_ok_iff {x : Ctx} {venue tokenIn tokenOut : Address}
    {amountIn amountOutMin : Nat} {payer recipient : Address} {deadline out : Nat} {s : ChainState}
    (h : Executes x venue tokenIn tokenOut amountIn amountOutMin payer recipient deadline out s) :
    (∃ s', dispatchVenue x.selfCall venue tokenIn tokenOut amountIn amountOutMin payer
      recipient deadline (s.ledger.balance tokenOut recipient) s = .ok out s') ↔
      amountOutMin ≤ out := by
  constructor
  · rintro ⟨s', run⟩
    exact (wp_ok h.wp_dispatchVenue run).2
  · intro enough
    have returned :
        Returns (dispatchVenue x.selfCall venue tokenIn tokenOut amountIn amountOutMin
        payer recipient deadline (s.ledger.balance tokenOut recipient)) s fun got _ => got = out :=
      wp_mono h.wp_dispatchVenue (fun _ _ got => got.1) fun _ _ short =>
        Nat.not_le_of_lt short.2 enough
    obtain ⟨_, s', run, rfl⟩ := returned.exists
    exact ⟨s', run⟩

/-! ## The fallback -/

structure Exchanged (x : Ctx) (tokenIn tokenOut : Address) (fee amountIn amountOutMinimum : Nat)
    (recipient swapRouter : Address) (L L' : Ledger) : Prop where
  calls : ∃ L₁ L₂, Step x (.forceApprove tokenIn swapRouter amountIn) L L₁ ∧
    Step x (.exactInputSingle swapRouter tokenIn tokenOut fee recipient amountIn amountOutMinimum)
      L₁ L₂ ∧
    Step x (.forceApprove tokenIn swapRouter 0) L₂ L'

theorem ensures_swapExactIn {x : Ctx} {tokenIn tokenOut : Address}
    {fee amountIn amountOutMinimum : Nat} {recipient swapRouter : Address} {s : ChainState} :
    Ensures (UniV3Router.swapExactIn x tokenIn tokenOut fee amountIn amountOutMinimum recipient
      swapRouter) s
      (fun _ s' => Exchanged x tokenIn tokenOut fee amountIn amountOutMinimum recipient swapRouter
        s.ledger s'.ledger ∧ Silent s s') := by
  simp only [UniV3Router.swapExactIn, Ensures, wp_bind, ensures_callExternal, wp_decode, wp_pure,
    implies_true, and_true]
  intro _ L₁ approved _ L₂ swapped _ _ _ L₃ reset
  exact ⟨⟨L₁, L₂, approved.step, swapped.step, reset.step⟩, rfl, rfl⟩

/-- Proceeds that arrived as WETH are unwrapped and sent on. -/
def Forwarded (x : Ctx) (tokenOut target : Address) (amount : Nat) (L L' : Ledger) : Prop :=
  if tokenOut = ethSentinel then
    ∃ L₁, Step x (.withdraw amount) L L₁ ∧
      if target = x.self then L' = L₁ else Step x (.sendValue target amount) L₁ L'
  else L' = L

theorem ensures_forwardETH {x : Ctx} {tokenOut target : Address} {amount : Nat} {s : ChainState} :
    Ensures (forwardETH x tokenOut target amount) s
      (fun _ s' => Forwarded x tokenOut target amount s.ledger s'.ledger ∧ Silent s s') := by
  by_cases eth : tokenOut = ethSentinel
  · simp only [forwardETH, if_pos eth, sendWrappedETH, Forwarded, Ensures, wp_bind,
      ensures_callExternal, wp_ite]
    intro _ L₁ withdrawn
    constructor
    · intro away
      apply ensures_sendETH
      intro _ L₂ sent
      exact ⟨⟨L₁, withdrawn.step, by rw [if_neg away]; exact sent.step⟩, rfl, rfl⟩
    · intro here
      exact ⟨⟨L₁, withdrawn.step, by rw [if_pos (not_not.mp here)]; rfl⟩, rfl, rfl⟩
  · simp only [forwardETH, if_neg eth, Forwarded]
    exact ⟨rfl, rfl, rfl⟩

/-! ## `_coreSwap` -/

structure FellBack (x : Ctx) (a : SwapArgs) (tokenIn_ : Address) (L : Ledger) (out : Nat)
    (L' : Ledger) : Prop where
  calls : ∃ L₁ L₂, (if a.tokenIn = ethSentinel then L₁ = L
      else Step x (.safeTransferFrom tokenIn_ x.sender x.self a.amountIn) L L₁) ∧
    Exchanged x tokenIn_ (resolveToken a.tokenOut)
      (x.storage.resolvedFee tokenIn_ (resolveToken a.tokenOut)) a.amountIn a.amountOutMin
      (measuredAt x a.tokenOut a.recipient) x.storage.fallbackSwapRouter L₁ L₂ ∧
    L₂.balance (resolveToken a.tokenOut) (measuredAt x a.tokenOut a.recipient) =
      L.balance (resolveToken a.tokenOut) (measuredAt x a.tokenOut a.recipient) + out ∧
    Forwarded x a.tokenOut a.recipient out L₂ L'
  enough : a.amountOutMin ≤ out

structure Filled (x : Ctx) (venue : Address) (a : SwapArgs) (tokenIn_ payer : Address) (L : Ledger)
    (out : Nat) (L' : Ledger) : Prop where
  other : venue ≠ x.storage.fallbackSwapRouter
  calls : ∃ L₁, Dispatched x venue tokenIn_ (resolveToken a.tokenOut) a.amountIn
      a.amountOutMin payer (measuredAt x a.tokenOut a.recipient) a.deadline
      (L.balance (resolveToken a.tokenOut) (measuredAt x a.tokenOut a.recipient)) L out L₁ ∧
    Forwarded x a.tokenOut a.recipient out L₁ L'

/-- The execution phase of `_coreSwap`: the venue filled, or the fallback ran. -/
def CoreExecuted (x : Ctx) (venue : Address) (a : SwapArgs) (tokenIn_ payer : Address) (L : Ledger)
    (out : Nat) (executed : Address) (L' : Ledger) : Prop :=
  (executed = venue ∧ Filled x venue a tokenIn_ payer L out L') ∨
    (executed = x.storage.fallbackSwapRouter ∧ FellBack x a tokenIn_ L out L')

theorem ensures_coreFallback {x : Ctx} {a : SwapArgs} {tokenIn_ : Address} {s : ChainState} :
    Ensures (coreFallback x a tokenIn_ (resolveToken a.tokenOut)
      (measuredAt x a.tokenOut a.recipient)
        (s.ledger.balance (resolveToken a.tokenOut) (measuredAt x a.tokenOut a.recipient))) s
      (fun r s' => r.2 = x.storage.fallbackSwapRouter ∧
        FellBack x a tokenIn_ s.ledger r.1 s'.ledger ∧
        Silent s s') := by
  -- The pull is skipped for wrapped ETH; both ways the rest is the same.
  have rest : ∀ L₁ (s₁ : ChainState), s₁.ledger = L₁ → Silent s s₁ →
      (if a.tokenIn = ethSentinel then L₁ = s.ledger
        else Step x (.safeTransferFrom tokenIn_ x.sender x.self a.amountIn) s.ledger L₁) →
      Ensures (do
        let _ ← UniV3Router.swapExactIn x tokenIn_ (resolveToken a.tokenOut)
          (x.storage.resolvedFee tokenIn_ (resolveToken a.tokenOut)) a.amountIn a.amountOutMin
          (measuredAt x a.tokenOut a.recipient) x.storage.fallbackSwapRouter
        let balance ← balanceOf (resolveToken a.tokenOut) (measuredAt x a.tokenOut a.recipient)
        let amountOut ← lift (checkedSub balance
          (s.ledger.balance (resolveToken a.tokenOut) (measuredAt x a.tokenOut a.recipient)))
        require (amountOut ≥ a.amountOutMin) (.insufficientOutput a.amountOutMin amountOut)
        forwardETH x a.tokenOut a.recipient amountOut
        return (amountOut, x.storage.fallbackSwapRouter)) s₁
        (fun r s' => r.2 = x.storage.fallbackSwapRouter ∧
          FellBack x a tokenIn_ s.ledger r.1 s'.ledger ∧
          Silent s s') := by
    intro L₁ s₁ ledger silent pulled
    subst ledger
    simp only [Ensures, wp_bind]
    refine ensures_swapExactIn.mono fun _ s₂ exchanged => ?_
    simp only [wp_balanceOf, wp_checkedSub, wp_require, wp_pure, implies_true, and_true]
    intro covered enough
    refine ensures_forwardETH.mono fun _ s₃ forwarded => ?_
    refine ⟨trivial, ⟨⟨s₁.ledger, s₂.ledger, pulled, exchanged.1, by omega, forwarded.1⟩, enough⟩,
      ?_⟩
    exact ⟨forwarded.2.1.trans (exchanged.2.1.trans silent.1),
      forwarded.2.2.trans (exchanged.2.2.trans silent.2)⟩
  unfold coreFallback
  by_cases eth : a.tokenIn = ethSentinel
  · rw [if_neg (not_not_intro eth)]
    exact rest s.ledger s rfl ⟨rfl, rfl⟩ (by rw [if_pos eth])
  · rw [if_pos eth]
    simp only [Ensures, wp_bind, ensures_callExternal]
    intro _ L₁ pulled
    have := rest L₁ (s.called (.safeTransferFrom tokenIn_ x.sender x.self a.amountIn) L₁) rfl
      ⟨rfl, rfl⟩ (by rw [if_neg eth]; exact pulled.step)
    simpa only [Ensures, wp_bind] using this

/-- Funds taken from the caller before anything is quoted or executed. -/
def Wrapped (x : Ctx) (tokenIn : Address) (amountIn : Nat) (L L' : Ledger) : Prop :=
  if tokenIn = ethSentinel then x.value = amountIn ∧ Step x (.deposit amountIn) L L'
  else x.value = 0 ∧ L' = L

/-- Who pushes the input: the router once it holds the wrapped ETH, otherwise the caller. -/
def payerOf (x : Ctx) (tokenIn : Address) : Address :=
  if tokenIn = ethSentinel then x.self else x.sender

theorem ensures_coreExecute {x : Ctx} {venue : Address} {a : SwapArgs} {tokenIn_ payer : Address}
    {s : ChainState} :
    Ensures (coreExecute x venue a tokenIn_ payer) s
      (fun r s' => CoreExecuted x venue a tokenIn_ payer s.ledger r.1 r.2 s'.ledger ∧
        s'.logs = s.logs ∧ s'.mark = s.ledger) := by
  -- Wherever the fallback starts, it starts on the ledger of the snapshot.
  have fallback : ∀ s₁ : ChainState, s₁.ledger = s.ledger → s₁.logs = s.logs → s₁.mark = s.ledger →
      Ensures (coreFallback x a tokenIn_ (resolveToken a.tokenOut)
        (measuredAt x a.tokenOut a.recipient)
          (s.ledger.balance (resolveToken a.tokenOut) (measuredAt x a.tokenOut a.recipient))) s₁
        (fun r s' => CoreExecuted x venue a tokenIn_ payer s.ledger r.1 r.2 s'.ledger ∧
          s'.logs = s.logs ∧ s'.mark = s.ledger) := by
    intro s₁ ledger logs mark
    rw [← ledger]
    apply ensures_coreFallback.mono
    rintro r s₂ ⟨executed, fellBack, silent⟩
    exact ⟨.inr ⟨executed, fellBack⟩, silent.1.trans logs, (silent.2.trans mark).trans ledger.symm⟩
  simp only [coreExecute, Ensures, wp_bind, wp_beginExecution, wp_balanceOf, wp_ite]
  constructor
  · intro other
    apply wp_attempt_of
    · apply ensures_dispatchVenue.mono
      rintro out s₁ ⟨dispatched, silent⟩
      simp only [wp_bind]
      apply ensures_forwardETH.mono
      rintro _ s₂ ⟨forwarded, still⟩
      exact ⟨.inl ⟨rfl, ⟨other, s₁.ledger, dispatched, forwarded⟩⟩, still.1.trans silent.1,
        still.2.trans silent.2⟩
    · intro failed
      exact fallback _ rfl rfl rfl
  · intro _
    exact fallback _ rfl rfl rfl

/-- A successful `_coreSwap`, from the ledger `L` the caller's transfer is taken on to
    the ledger `L₀` execution starts on. -/
structure CoreSwapped (x : Ctx) (venue : Address) (a : SwapArgs) (L L₀ : Ledger) (out : Nat)
    (executed : Address) (L' : Ledger) : Prop where
  wrapped : Wrapped x a.tokenIn a.amountIn L L₀
  distinct : resolveToken a.tokenIn ≠ resolveToken a.tokenOut
  run : CoreExecuted x venue a (resolveToken a.tokenIn) (payerOf x a.tokenIn) L₀ out executed L'

theorem ensures_coreSwap {x : Ctx} {venue : Address} {a : SwapArgs} {s : ChainState} :
    Ensures (coreSwap x venue a) s
      (fun r s' => CoreSwapped x venue a s.ledger s'.mark r.1 r.2 s'.ledger ∧
        s'.logs = s.logs) := by
  simp only [coreSwap, wrapInput, Ensures, wp_bind, wp_require, wp_ite, ensures_callExternal,
    wp_pure, implies_true, and_true]
  intro _
  constructor
  · intro eth attached ret L₁ deposited distinct
    apply ensures_coreExecute.mono
    rintro r s' ⟨run, logs, mark⟩
    rw [mark]
    refine ⟨⟨?_, ?_, ?_⟩, logs⟩
    · rw [Wrapped, if_pos eth, ← attached]
      exact ⟨rfl, deposited.step⟩
    · rwa [eth, resolveToken_sentinel]
    · rw [payerOf, if_pos eth, eth, resolveToken_sentinel]
      exact run
  · intro token unattached distinct
    apply ensures_coreExecute.mono
    rintro r s' ⟨run, logs, mark⟩
    rw [mark]
    refine ⟨⟨?_, ?_, ?_⟩, logs⟩
    · rw [Wrapped, if_neg token]
      exact ⟨unattached, rfl⟩
    · rwa [resolveToken_token token]
    · rw [resolveToken_token token, payerOf, if_neg token]
      exact run

end PropAMM
