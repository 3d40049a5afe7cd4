import PropAMM.Router.Flows

/-! # Custody of the input

On a chain where every amount is moved exactly, the input of a successful call
ends with the venues that filled and with the pool of the fallback, and with
nobody else. Whatever passed through the router has left it again.
-/

namespace PropAMM

open Txn FrontendFees Flow

/-! ## Execution -/

/-- From `L` to `L'` the order `a` was executed: `pushed` went to venues, `absorbed` to
    the fallback's pool, and `gross` was measured at `measured`. -/
structure ExecutedExactly (x : Ctx) (pool : Address → Address) (a : SwapArgs) (measured : Address)
    (pushed : Address → Nat) (absorbed gross : Nat) (L L' : Ledger) : Prop where
  router : ∀ token, (resolveToken a.tokenOut = token → measured ≠ x.self) →
    L'.balance token x.self = L.balance token x.self
  delivered : measured = x.self →
    L'.balance (resolveToken a.tokenOut) x.self = L.balance (resolveToken a.tokenOut) x.self + gross
  account : ∀ who, who ≠ x.self →
    L'.balance (resolveToken a.tokenIn) who +
        (if a.tokenIn ≠ ethSentinel ∧ x.sender = who then a.amountIn else 0) =
      L.balance (resolveToken a.tokenIn) who + pushed who +
        if pool x.storage.fallbackSwapRouter = who then absorbed else 0
  native : L'.native x.self + (if a.tokenIn = ethSentinel then a.amountIn else 0) = L.native x.self
  allowance : L.allowance (resolveToken a.tokenIn) x.self x.storage.fallbackSwapRouter = 0 →
    L'.allowance (resolveToken a.tokenIn) x.self x.storage.fallbackSwapRouter = 0

section Execution

variable {x : Ctx} {pool : Address → Address} {a : SwapArgs} {L L₀ L' : Ledger}

/-- After a swap through the fallback its allowance is gone. -/
theorem ExactChain.exchanged_allowance {tokenIn : Address} (chain : ExactChain x tokenIn pool)
    {token tokenOut recipient swapRouter : Address} {fee amountIn amountOutMinimum : Nat}
    (h : Exchanged x token tokenOut fee amountIn amountOutMinimum recipient swapRouter L L') :
    L'.allowance token x.self swapRouter = 0 := by
  obtain ⟨_, _, _, _, reset⟩ := h.calls
  exact chain.approved reset

/-- What the calls `pre`, taking the funds, and `run`, spending them, come to. -/
structure Balanced (x : Ctx) (pool : Address → Address) (a : SwapArgs) (measured : Address)
    (pushed : Address → Nat) (absorbed : Nat) (pre run : List ExtCall) : Prop where
  funds : ∀ token who, Predicted x token who pre
  elsewhere : ∀ token who, (resolveToken a.tokenOut = token → measured ≠ who) →
    Predicted x token who run
  router : ∀ token, routerGain x token (fun _ => 0) pre + routerGain x token (fun _ => 0) run = 0
  idle : routerGain x (resolveToken a.tokenOut) (fun _ => 0) pre = 0
  account : ∀ who, who ≠ x.self → accountGain pool (resolveToken a.tokenIn) who pre +
      accountGain pool (resolveToken a.tokenIn) who run =
    pushed who + (if pool x.storage.fallbackSwapRouter = who then (absorbed : ℤ) else 0) -
      if a.tokenIn ≠ ethSentinel ∧ x.sender = who then (a.amountIn : ℤ) else 0
  native : nativeGain pre + nativeGain run = if a.tokenIn = ethSentinel then -(a.amountIn : ℤ)
    else 0

theorem Balanced.executed {measured : Address} {pushed : Address → Nat} {absorbed gross : Nat}
    {pre run : List ExtCall} (b : Balanced x pool a measured pushed absorbed pre run)
    (distinct : resolveToken a.tokenIn ≠ resolveToken a.tokenOut)
    (before : Moves x (resolveToken a.tokenIn) pool pre L L₀)
    (during : Moves x (resolveToken a.tokenIn) pool run L₀ L')
    (delivered : measured = x.self → L'.balance (resolveToken a.tokenOut) x.self =
      L₀.balance (resolveToken a.tokenOut) x.self + gross)
    (allowance : L₀.allowance (resolveToken a.tokenIn) x.self x.storage.fallbackSwapRouter = 0 →
      L'.allowance (resolveToken a.tokenIn) x.self x.storage.fallbackSwapRouter = 0)
    (keeps : ∀ c ∈ pre, c.approves = false) :
    ExecutedExactly x pool a measured pushed absorbed gross L L' where
  router token away := by
    have first := before.router token (b.funds token x.self)
    have second := during.router token (b.elsewhere token x.self away)
    have total := b.router token
    omega
  delivered here := by
    have first := before.router _ (b.funds (resolveToken a.tokenOut) x.self)
    have second := delivered here
    rw [b.idle] at first
    omega
  account who other := by
    have first := before.account who other (b.funds _ who)
    have second :=
      during.account who other (b.elsewhere _ who fun same => absurd same.symm distinct)
    have total := b.account who other
    split_ifs at total ⊢ <;> omega
  native := by
    have first := before.native
    have second := during.native
    have total := b.native
    split_ifs at total ⊢ <;> omega
  allowance clear := by
    apply allowance
    rw [before.allowance keeps]
    exact clear

section Shapes

variable {measured : Address}

/-- A venue that filled was pushed the whole order, by the caller or out of the wrapped ETH. -/
theorem balanced_dispatch {venue : Address} (outside : x.sender ≠ x.self) (away : venue ≠ x.self)
    (distinct : resolveToken a.tokenIn ≠ resolveToken a.tokenOut) :
    Balanced x pool a measured (fun who => if venue = who then a.amountIn else 0) 0
      (wrapCalls a.tokenIn a.amountIn)
      (dispatchCalls x venue (resolveToken a.tokenIn) (resolveToken a.tokenOut) a.amountIn
        a.amountOutMin (payerOf x a.tokenIn) measured a.deadline) where
  funds _ _ := predicted_wrapCalls
  elsewhere token who := predicted_dispatchCalls away
  router token := by
    rw [routerGain_wrapCalls, routerGain_dispatchCalls away]
    by_cases eth : a.tokenIn = ethSentinel
    · simp only [eth, resolveToken_sentinel, payerOf, if_true, true_and, and_true, @eq_comm _ weth]
      split <;> omega
    · simp [eth, payerOf, outside]
  idle := by
    rw [routerGain_wrapCalls, if_neg]
    rintro ⟨eth, wrapped⟩
    rw [eth, resolveToken_sentinel] at distinct
    exact distinct wrapped.symm
  account who other := by
    rw [accountGain_wrapCalls, accountGain_dispatchCalls other, if_pos rfl]
    by_cases eth : a.tokenIn = ethSentinel
    · simp [eth, payerOf, other.symm]
    · simp [eth, payerOf]
  native := by
    rw [nativeGain_wrapCalls, nativeGain_dispatchCalls, add_zero]

/-- The funds pulled onto the router are sold by `run`, partly to venues and partly
    through the fallback. -/
theorem balanced_pull {pushed : Address → Nat} {absorbed : Nat} {run : List ExtCall}
    (outside : x.sender ≠ x.self) (distinct : resolveToken a.tokenIn ≠ resolveToken a.tokenOut)
    (elsewhere : ∀ token who, (resolveToken a.tokenOut = token → measured ≠ who) →
      Predicted x token who run)
    (router : ∀ token, routerGain x token (fun _ => 0) run =
      if resolveToken a.tokenIn = token then -(a.amountIn : ℤ) else 0)
    (account : ∀ who, who ≠ x.self → accountGain pool (resolveToken a.tokenIn) who run =
      pushed who + if pool x.storage.fallbackSwapRouter = who then (absorbed : ℤ) else 0)
    (native : nativeGain run = 0) :
    Balanced x pool a measured pushed absorbed (pullCalls x a.tokenIn a.amountIn) run where
  funds _ _ := predicted_pullCalls
  elsewhere := elsewhere
  router token := by
    rw [routerGain_pullCalls outside, router token]
    split_ifs <;> simp
  idle := by rw [routerGain_pullCalls outside, if_neg distinct]
  account who other := by
    rw [accountGain_pullCalls other, account who other]
    by_cases eth : a.tokenIn = ethSentinel
    · simp [eth]
    · by_cases payer : x.sender = who
      · simp only [eth, resolveToken_token eth, payer, ne_eq, not_false_eq_true, and_self, if_true]
        omega
      · simp [payer]
  native := by
    rw [nativeGain_pullCalls, native, add_zero]

end Shapes

theorem ExactChain.filled (chain : ExactChain x (resolveToken a.tokenIn) pool)
    {venue measured : Address} {out : Nat} (outside : x.sender ≠ x.self)
    (distinct : resolveToken a.tokenIn ≠ resolveToken a.tokenOut)
    (wrapped : Wrapped x a.tokenIn a.amountIn L L₀)
    (dispatched : Dispatched x venue (resolveToken a.tokenIn) (resolveToken a.tokenOut) a.amountIn
      a.amountOutMin (payerOf x a.tokenIn) measured a.deadline
        (L₀.balance (resolveToken a.tokenOut) measured) L₀ out L') :
    ExecutedExactly x pool a measured (fun who => if venue = who then a.amountIn else 0) 0
      out L L' := by
  have during := chain.moves dispatched.steps
  apply (balanced_dispatch outside dispatched.foreign distinct).executed distinct
    (chain.moves wrapped.steps) during
  · intro here
    subst here
    exact dispatched.measured
  · intro clear
    rw [during.allowance keeps_dispatchCalls]
    exact clear
  · exact keeps_wrapCalls

theorem ExactChain.fellBack (chain : ExactChain x (resolveToken a.tokenIn) pool) {out : Nat}
    (outside : x.sender ≠ x.self) (distinct : resolveToken a.tokenIn ≠ resolveToken a.tokenOut)
    (wrapped : Wrapped x a.tokenIn a.amountIn L L₀)
    (h : FellBack x a (resolveToken a.tokenIn) L₀ out L') :
    ∃ L₂, ExecutedExactly x pool a (measuredAt x a.tokenOut a.recipient)
      (fun _ => 0) a.amountIn out L L₂ ∧
      Forwarded x a.tokenOut a.recipient out L₂ L' := by
  obtain ⟨L₁, L₂, pulled, exchanged, measured, forwarded⟩ := h.calls
  -- The funds come onto the router, and the snapshot does not see it.
  have funds : Pulled x a.tokenIn a.amountIn L L₁ ∧
      L₁.balance (resolveToken a.tokenOut) x.self = L₀.balance (resolveToken a.tokenOut)
        x.self := by
    unfold Wrapped at wrapped
    unfold Pulled
    by_cases eth : a.tokenIn = ethSentinel
    · rw [if_pos eth] at wrapped pulled ⊢
      rw [pulled]
      exact ⟨wrapped, rfl⟩
    · rw [if_neg eth] at wrapped pulled ⊢
      rw [resolveToken_token eth] at pulled distinct
      have unseen := chain.router (resolveToken a.tokenOut) pulled not_false
      rw [routerFlow, if_neg distinct] at unseen
      rw [← wrapped.2]
      exact ⟨⟨wrapped.1, pulled⟩, by omega⟩
  refine ⟨L₂, ?_, forwarded⟩
  have sold : Balanced x pool a (measuredAt x a.tokenOut a.recipient) (fun _ => 0) a.amountIn
      (pullCalls x a.tokenIn a.amountIn)
      (exchangeCalls (resolveToken a.tokenIn) (resolveToken a.tokenOut)
        (x.storage.resolvedFee (resolveToken a.tokenIn) (resolveToken a.tokenOut)) a.amountIn
          a.amountOutMin
        (measuredAt x a.tokenOut a.recipient) x.storage.fallbackSwapRouter) := by
    apply balanced_pull outside distinct
    · intro _ _ elsewhere
      exact predicted_exchangeCalls elsewhere
    · intro token
      exact routerGain_exchangeCalls
    · intro who _
      simp [accountGain_exchangeCalls]
    · exact nativeGain_exchangeCalls
  apply sold.executed distinct (chain.moves funds.1.steps) (chain.moves exchanged.steps)
  · intro here
    rw [here] at measured
    rw [measured, funds.2]
  · intro _
    exact chain.exchanged_allowance exchanged
  · exact keeps_pullCalls

theorem ExactChain.splitFilled (chain : ExactChain x (resolveToken a.tokenIn) pool)
    {amountOutMin : Nat} {payTo : Address} {f : SplitFill} (outside : x.sender ≠ x.self)
    (h : SplitFilled x a amountOutMin payTo L L₀ f L') :
    (∃ L₂, ExecutedExactly x pool a (measuredAt x a.tokenOut payTo) (pushedTo · f.filled) f.absorbed
      f.total L L₂ ∧
      Forwarded x a.tokenOut payTo f.total L₂ L') ∧
      ∀ leg ∈ f.filled.map Prod.fst, leg.venue ≠ x.storage.fallbackSwapRouter := by
  obtain ⟨s₁, s₂, legs, pulled, planned, start, executed⟩ := h.run
  obtain ⟨L₁, L₂, runs, absorbed, forwarded⟩ := executed.calls
  refine ⟨⟨L₂, ?_, forwarded⟩, runs.other⟩
  have quoted := chain.quotedMoves ((within_planSplit (quotedFrame x) _ _ _ _).ok planned).1
  rw [start] at quoted
  have tokenIn_ : (legRunOf a amountOutMin payTo).tokenIn_ = resolveToken a.tokenIn := rfl
  have tokenOut_ : (legRunOf a amountOutMin payTo).tokenOut_ = resolveToken a.tokenOut := rfl
  have totalIn : (legRunOf a amountOutMin payTo).totalIn = a.amountIn := rfl
  have counted := runs.allocation
  rw [executed.allocated, totalIn] at counted
  have sold : Balanced x pool a (measuredAt x a.tokenOut payTo) (pushedTo · f.filled) f.absorbed
      (pullCalls x a.tokenIn a.amountIn) (legCalls x (legRunOf a amountOutMin payTo) f.filled ++
        absorbCalls x (legRunOf a amountOutMin payTo) f.absorbed (deliveredBy f.filled)) := by
    apply balanced_pull outside h.distinct
    · intro _ _ elsewhere
      exact predicted_append.mpr ⟨predicted_legCalls runs.foreign elsewhere,
        predicted_absorbCalls elsewhere⟩
    · intro token
      rw [routerGain_append, routerGain_legCalls runs.foreign, routerGain_absorbCalls, tokenIn_]
      split <;> omega
    · intro who other
      rw [accountGain_append, accountGain_legCalls other tokenIn_, accountGain_absorbCalls tokenIn_]
    · rw [nativeGain_append, nativeGain_legCalls, nativeGain_absorbCalls, add_zero]
  have before := (chain.moves pulled.steps).trans quoted
  rw [List.append_nil] at before
  apply sold.executed h.distinct before
    ((chain.moves runs.steps).trans (chain.moves absorbed.steps))
  · intro here
    have legsOut := runs.measured
    have uniOut := absorbed.measured
    have there : (legRunOf a amountOutMin payTo).measuredAt x = x.self := here
    rw [there, tokenOut_] at legsOut uniOut
    rw [uniOut, legsOut, SplitFill.total, Nat.add_assoc]
  · intro clear
    have legsKeep := (chain.moves runs.steps).allowance keeps_legCalls
    have settled := absorbed
    unfold Absorbed at settled
    split at settled
    · rw [settled.2, legsKeep]
      exact clear
    · exact chain.exchanged_allowance settled.1
  · exact keeps_pullCalls

end Execution

/-! ## Passing the proceeds on -/

/-- From `L` to `L'` what was measured at the router has left it, and nothing else moved. -/
structure PassedOn (x : Ctx) (a : SwapArgs) (measured : Address) (gross : Nat) (L L' : Ledger) :
    Prop where
  router : ∀ token, (resolveToken a.tokenOut = token → measured ≠ x.self) →
    L'.balance token x.self = L.balance token x.self
  delivered : measured = x.self →
    L'.balance (resolveToken a.tokenOut) x.self + gross = L.balance (resolveToken a.tokenOut) x.self
  account : ∀ who, who ≠ x.self → L'.balance (resolveToken a.tokenIn) who =
    L.balance (resolveToken a.tokenIn) who
  native : L'.native x.self = L.native x.self
  allowance : L'.allowance (resolveToken a.tokenIn) x.self x.storage.fallbackSwapRouter =
    L.allowance (resolveToken a.tokenIn) x.self x.storage.fallbackSwapRouter

section PassingOn

variable {x : Ctx} {pool : Address → Address} {a : SwapArgs} {measured : Address} {gross : Nat}
  {L L' : Ledger}

theorem Moves.passedOn {post : List ExtCall}
    (moves : Moves x (resolveToken a.tokenIn) pool post L L')
    (predicted : ∀ token who, Predicted x token who post)
    (router : ∀ token, routerGain x token (fun _ => 0) post =
      if resolveToken a.tokenOut = token ∧ measured = x.self then -(gross : ℤ) else 0)
    (account : ∀ who, accountGain pool (resolveToken a.tokenIn) who post = 0)
      (native : nativeGain post = 0)
    (keeps : ∀ c ∈ post, c.approves = false) : PassedOn x a measured gross L L' where
  router token away := by
    have moved := moves.router token (predicted token x.self)
    rw [router token, if_neg fun both => away both.1 both.2] at moved
    omega
  delivered here := by
    have moved := moves.router _ (predicted (resolveToken a.tokenOut) x.self)
    rw [router _, if_pos ⟨rfl, here⟩] at moved
    omega
  account who other := by
    have moved := moves.account who other (predicted _ who)
    rw [account who] at moved
    omega
  native := by
    have moved := moves.native
    rw [native] at moved
    omega
  allowance := moves.allowance keeps

theorem routerGain_forward_measured {target : Address} {token : Address} (away : target ≠ x.self) :
    routerGain x token (fun _ => 0) (forwardCalls x a.tokenOut target gross) =
      if resolveToken a.tokenOut = token ∧ measuredAt x a.tokenOut target = x.self then -(gross : ℤ)
        else 0 := by
  rw [routerGain_forwardCalls, measuredAt]
  by_cases eth : a.tokenOut = ethSentinel
  · simp [eth, resolveToken_sentinel, @eq_comm _ weth]
  · simp [eth, away]

/-- A plain form forwards to the recipient. -/
theorem ExactChain.forwarded (chain : ExactChain x (resolveToken a.tokenIn) pool)
    (away : a.recipient ≠ x.self) (unwrapped : a.tokenOut = ethSentinel → a.recipient ≠ weth)
    (h : Forwarded x a.tokenOut a.recipient gross L L') :
    PassedOn x a (measuredAt x a.tokenOut a.recipient) gross L L' := by
  apply (chain.moves h.steps).passedOn
  · intro token who
    exact predicted_forwardCalls fun eth _ => unwrapped eth
  · intro token
    exact routerGain_forward_measured away
  · intro who
    exact accountGain_forwardCalls
  · rw [nativeGain_forwardCalls, if_neg fun both => away both.2]
  · exact keeps_forwardCalls

/-- A fee form keeps the proceeds until it shares them out. -/
theorem ExactChain.skimmed (chain : ExactChain x (resolveToken a.tokenIn) pool) {fee : FrontendFee}
    {amountOutMin out : Nat} {L₁ L₂ : Ledger}
    (distinct : resolveToken a.tokenIn ≠ resolveToken a.tokenOut)
    (away : a.recipient ≠ x.self) (feeAway : fee.recipient ≠ x.self)
    (unwrapped : a.tokenOut = ethSentinel → a.recipient ≠ weth ∧ fee.recipient ≠ weth)
    (kept : Forwarded x a.tokenOut x.self gross L L₁)
    (paid : SkimmedAndDisbursed x a.tokenOut gross fee a.recipient amountOutMin L₁ L₂ out L') :
    PassedOn x a x.self gross L L' := by
  have whole := (chain.moves kept.steps).trans
    ((chain.moves paid.skimmed.steps).trans (chain.moves paid.disbursed.paid.steps))
  have part := paid.covered
  apply whole.passedOn
  · intro token who
    refine predicted_append.mpr ⟨predicted_forwardCalls fun _ here => absurd rfl here,
      predicted_append.mpr ⟨?_, ?_⟩⟩
    · exact predicted_paymentCalls feeAway fun eth => (unwrapped eth).2
    · exact predicted_paymentCalls away fun eth => (unwrapped eth).1
  · intro token
    rw [routerGain_append, routerGain_append, routerGain_forwardCalls, routerGain_paymentCalls,
      routerGain_paymentCalls]
    by_cases eth : a.tokenOut = ethSentinel
    · simp [eth, resolveToken_sentinel, @eq_comm _ weth]
    · simp only [eth, resolveToken_token eth, ne_eq, not_false_eq_true, true_and, and_true,
        false_and, if_false]
      split <;> omega
  · intro who
    rw [accountGain_append, accountGain_append, accountGain_forwardCalls,
      accountGain_paymentCalls distinct, accountGain_paymentCalls distinct]
    rfl
  · rw [nativeGain_append, nativeGain_append, nativeGain_forwardCalls, nativeGain_paymentCalls,
      nativeGain_paymentCalls]
    by_cases eth : a.tokenOut = ethSentinel
    · simp only [eth, and_self, if_true]
      omega
    · simp [eth]
  · intro c member
    rcases List.mem_append.mp member with forward | rest
    · exact keeps_forwardCalls c forward
    · rcases List.mem_append.mp rest with skim | net
      · exact keeps_paymentCalls c skim
      · exact keeps_paymentCalls c net

end PassingOn

/-! ## Whole calls -/

/-- Input a `Swapped` event assigns to `who`. -/
def Event.inputTo (who : Address) : Event → Nat
  | swapped _ _ _ amountIn _ _ marketMaker => if marketMaker = who then amountIn else 0
  | _ => 0

def inputTo (who : Address) (events : List Event) : Nat := (events.map (Event.inputTo who)).sum

/-- The input of a call, as its events tell it: each venue received what they say, the
    fallback's pool the rest, the caller paid for it, and the router is as it was. -/
structure InputCustody (x : Ctx) (pool : Address → Address) (a : SwapArgs) (events : List Event)
    (L L' : Ledger) : Prop where
  sold : (events.map Event.amountIn).sum = a.amountIn
  account : ∀ who, who ≠ x.self →
    L'.balance (resolveToken a.tokenIn) who +
        (if a.tokenIn ≠ ethSentinel ∧ x.sender = who then a.amountIn else 0) =
      L.balance (resolveToken a.tokenIn) who +
        (if who = x.storage.fallbackSwapRouter then 0 else inputTo who events) +
        if pool x.storage.fallbackSwapRouter = who then inputTo x.storage.fallbackSwapRouter events
          else 0
  router : ∀ token, L'.balance token x.self = L.balance token x.self
  native : L'.native x.self + (if a.tokenIn = ethSentinel then a.amountIn else 0) = L.native x.self
  allowance : L.allowance (resolveToken a.tokenIn) x.self x.storage.fallbackSwapRouter = 0 →
    L'.allowance (resolveToken a.tokenIn) x.self x.storage.fallbackSwapRouter = 0

section Custody

variable {x : Ctx} {pool : Address → Address} {a : SwapArgs} {measured : Address}
  {pushed : Address → Nat} {absorbed gross : Nat} {events : List Event} {L L₂ L' : Ledger}

theorem ExecutedExactly.custody (h : ExecutedExactly x pool a measured pushed absorbed gross L L₂)
    (passed : PassedOn x a measured gross L₂ L')
    (sold : (events.map Event.amountIn).sum = a.amountIn)
    (venues : ∀ who, pushed who = if who = x.storage.fallbackSwapRouter then 0
      else inputTo who events)
    (uniswap : absorbed = inputTo x.storage.fallbackSwapRouter events) :
    InputCustody x pool a events L L' where
  sold := sold
  account who other := by
    rw [passed.account who other, h.account who other, venues who, uniswap]
  router token := by
    by_cases here : resolveToken a.tokenOut = token ∧ measured = x.self
    · obtain ⟨same, here⟩ := here
      have into := h.delivered here
      have out := passed.delivered here
      subst same
      omega
    · have away : resolveToken a.tokenOut = token → measured ≠ x.self :=
        fun same at_self => here ⟨same, at_self⟩
      rw [passed.router token away, h.router token away]
  native := by rw [passed.native, h.native]
  allowance clear := by
    rw [passed.allowance]
    exact h.allowance clear

/-- What the quotes before `L` did not move. -/
theorem InputCustody.of_moves {L₀ : Ledger} (quiet : Moves x (resolveToken a.tokenIn) pool [] L₀ L)
    (h : InputCustody x pool a events L L') : InputCustody x pool a events L₀ L' where
  sold := h.sold
  account who other := by
    have still := quiet.account who other predicted_nil
    rw [h.account who other]
    rw [accountGain_nil, add_zero] at still
    omega
  router token := by
    have still := quiet.router token predicted_nil
    rw [h.router token]
    rw [routerGain_nil, add_zero] at still
    omega
  native := by
    have still := quiet.native
    rw [h.native]
    rw [nativeGain_nil, add_zero] at still
    omega
  allowance clear := by
    apply h.allowance
    rw [quiet.allowance (by simp)]
    exact clear

theorem inputTo_append (who : Address) (events events' : List Event) :
    inputTo who (events ++ events') = inputTo who events + inputTo who events' := by
  simp [inputTo]

theorem inputTo_swappedEvent (who executed : Address) (out : Nat) :
    inputTo who [swappedEvent x a out executed] = if executed = who then a.amountIn else 0 := by
  simp [inputTo, swappedEvent, Event.inputTo]

theorem inputTo_feeEvents (who tokenOut : Address) (feeAmt : Nat) (fee : FrontendFee) :
    inputTo who (feeEvents x tokenOut feeAmt fee) = 0 := by
  unfold feeEvents
  split <;> rfl

theorem sum_amountIn_feeEvents (tokenOut : Address) (feeAmt : Nat) (fee : FrontendFee) :
    ((feeEvents x tokenOut feeAmt fee).map Event.amountIn).sum = 0 := by
  unfold feeEvents
  split <;> rfl

theorem inputTo_filled (who : Address) (r : LegRun) (filled : List (Leg × Nat)) :
    inputTo who (filled.map (legEvent x r)) = pushedTo who filled := by
  rw [inputTo, List.map_map]
  rfl

/-- Nothing is pushed where no leg filled. -/
theorem pushedTo_eq_zero {who : Address} {filled : List (Leg × Nat)}
    (others : ∀ leg ∈ filled.map Prod.fst, leg.venue ≠ who) : pushedTo who filled = 0 := by
  induction filled with
  | nil => rfl
  | cons f filled ih =>
      have here := others f.1 (by simp)
      have later := ih fun leg member => others leg (List.mem_cons_of_mem _ member)
      rw [pushedTo, List.map_cons, List.sum_cons, if_neg here, Nat.zero_add]
      exact later

theorem SplitFill.inputTo_events {r : LegRun} {f : SplitFill}
    (others : ∀ leg ∈ f.filled.map Prod.fst, leg.venue ≠ x.storage.fallbackSwapRouter)
    (who : Address) :
    inputTo who (f.events x r) =
      if who = x.storage.fallbackSwapRouter then f.absorbed else pushedTo who f.filled := by
  rw [events, inputTo_append, inputTo_filled]
  by_cases fallback : who = x.storage.fallbackSwapRouter
  · subst fallback
    rw [if_pos rfl, pushedTo_eq_zero others, Nat.zero_add]
    split
    · rename_i none
      rw [none]
      rfl
    · simp [inputTo, Event.inputTo]
  · rw [if_neg fallback]
    split
    · rfl
    · simp [inputTo, Event.inputTo, Ne.symm fallback]

/-- Either the venue was pushed the whole order, or the fallback absorbed it. -/
theorem ExactChain.coreSwapped (chain : ExactChain x (resolveToken a.tokenIn) pool)
    {venue executed : Address} {L₀ : Ledger} (outside : x.sender ≠ x.self)
    (h : CoreSwapped x venue a L L₀ gross executed L')
    (told : ∀ who, inputTo who events = if executed = who then a.amountIn else 0) :
    ∃ pushed absorbed L₂, ExecutedExactly x pool a (measuredAt x a.tokenOut a.recipient) pushed
      absorbed gross L L₂ ∧
      Forwarded x a.tokenOut a.recipient gross L₂ L' ∧
      (∀ who, pushed who = if who = x.storage.fallbackSwapRouter then 0 else inputTo who events) ∧
      absorbed = inputTo x.storage.fallbackSwapRouter events := by
  obtain ⟨wrapped, distinct, run⟩ := h
  rcases run with ⟨venueFilled, filled⟩ | ⟨fallback, fellBack⟩
  · obtain ⟨L₂, dispatched, forwarded⟩ := filled.calls
    refine ⟨_, _, L₂, chain.filled outside distinct wrapped dispatched, forwarded,
      fun who => ?_, ?_⟩
    · rw [told, venueFilled]
      by_cases same : venue = who
      · subst same
        rw [if_neg filled.other]
      · rw [if_neg same, ite_self]
    · rw [told, venueFilled, if_neg filled.other]
  · obtain ⟨L₂, executedExactly, forwarded⟩ := chain.fellBack outside distinct wrapped fellBack
    refine ⟨_, _, L₂, executedExactly, forwarded, fun who => ?_, ?_⟩
    · rw [told, fallback]
      by_cases same : who = x.storage.fallbackSwapRouter
      · rw [if_pos same]
      · rw [if_neg same, if_neg (Ne.symm same)]
    · rw [told, fallback, if_pos rfl]

theorem InputCustody.of_gross {grossMin : Nat}
    (h : InputCustody x pool (a.gross x grossMin) events L L') :
    InputCustody x pool a events L L' :=
  ⟨h.sold, h.account, h.router, h.native, h.allowance⟩

section Shapes

variable {s s' : ChainState} {out : Nat} {fee : FrontendFee}

theorem ExactChain.plainRun (chain : ExactChain x (resolveToken a.tokenIn) pool)
    (outside : x.sender ≠ x.self) (away : a.recipient ≠ x.self)
    (unwrapped : a.tokenOut = ethSentinel → a.recipient ≠ weth)
    (h : PlainRun x a s out s') :
    ∃ events, s'.logs = s.logs ++ events ∧ InputCustody x pool a events s.ledger s'.ledger := by
  obtain ⟨L₁, quoted, venue, executed, swapped, logs⟩ := h.quoted
  obtain ⟨pushed, absorbed, L₂, run, forwarded, venues, uniswap⟩ :=
    chain.coreSwapped outside swapped fun who => inputTo_swappedEvent who executed out
  have passed := chain.forwarded away unwrapped forwarded
  have custody := run.custody passed (by simp [swappedEvent, Event.amountIn]) venues uniswap
  exact ⟨_, logs, custody.of_moves (chain.quotedMoves quoted)⟩

theorem ExactChain.feeRun (chain : ExactChain x (resolveToken a.tokenIn) pool)
    (outside : x.sender ≠ x.self) (away : a.recipient ≠ x.self) (feeAway : fee.recipient ≠ x.self)
    (unwrapped : a.tokenOut = ethSentinel → a.recipient ≠ weth ∧ fee.recipient ≠ weth)
    (h : FeeRun x a fee s out s') :
    ∃ events, s'.logs = s.logs ++ events ∧ InputCustody x pool a events s.ledger s'.ledger := by
  obtain ⟨L₁, quoted, grossMin, _, venue, L₀, delivered, executed, L₂, swapped, paid, logs⟩ :=
    h.quoted
  rw [List.append_assoc] at logs
  have told : ∀ who, inputTo who (feeEvents x a.tokenOut (feeOf delivered fee.bps) fee ++
      [swappedEvent x a out executed]) = if executed = who then (a.gross x grossMin).amountIn
        else 0 := by
    intro who
    rw [inputTo_append, inputTo_feeEvents, inputTo_swappedEvent, Nat.zero_add]
    rfl
  have distinct := swapped.distinct
  obtain ⟨pushed, absorbed, L₃, run, forwarded, venues, uniswap⟩ :=
    ExactChain.coreSwapped (a := a.gross x grossMin) chain outside swapped told
  have there : measuredAt x (a.gross x grossMin).tokenOut (a.gross x grossMin).recipient = x.self :=
    ite_self _
  rw [there] at run
  have passed : PassedOn x a x.self delivered L₃ s'.ledger :=
    chain.skimmed distinct away feeAway unwrapped forwarded paid
  have counted : ((feeEvents x a.tokenOut (feeOf delivered fee.bps) fee ++
      [swappedEvent x a out executed]).map Event.amountIn).sum =
        (a.gross x grossMin).amountIn := by
    rw [List.map_append, List.sum_append, sum_amountIn_feeEvents]
    simp [swappedEvent, Event.amountIn, SwapArgs.gross]
  have custody : InputCustody x pool (a.gross x grossMin) _ L₁ s'.ledger :=
    run.custody ⟨passed.router, passed.delivered, passed.account, passed.native, passed.allowance⟩
      counted venues uniswap
  exact ⟨_, logs, custody.of_gross.of_moves (chain.quotedMoves quoted)⟩

/-- The events of a split tell its custody, whatever is logged after them. -/
theorem ExactChain.splitCustody (chain : ExactChain x (resolveToken a.tokenIn) pool)
    {amountOutMin : Nat} {payTo : Address} {f : SplitFill} {L₀ : Ledger} (fees : List Event)
    (outside : x.sender ≠ x.self)
    (silent : ∀ who, inputTo who fees = 0) (idle : (fees.map Event.amountIn).sum = 0)
    (h : SplitFilled x a amountOutMin payTo L L₀ f L₂)
    (passed : ∀ L₃, Forwarded x a.tokenOut payTo f.total L₃ L₂ →
      PassedOn x a (measuredAt x a.tokenOut payTo) f.total L₃ L') :
    InputCustody x pool a (f.events x (legRunOf a amountOutMin payTo) ++ fees) L L' := by
  obtain ⟨⟨L₃, run, forwarded⟩, others⟩ := chain.splitFilled outside h
  obtain ⟨_, _, legs, _, _, _, executed⟩ := h.run
  obtain ⟨_, _, runs, _, _⟩ := executed.calls
  have counted := runs.allocation
  have totalIn : (legRunOf a amountOutMin payTo).totalIn = a.amountIn := rfl
  rw [executed.allocated, totalIn] at counted
  apply run.custody (passed L₃ forwarded)
  · rw [List.map_append, List.sum_append, f.sum_amountIn, idle, Nat.add_zero, counted]
  · intro who
    rw [inputTo_append, silent, Nat.add_zero, SplitFill.inputTo_events others]
    by_cases fallback : who = x.storage.fallbackSwapRouter
    · subst fallback
      rw [if_pos rfl, pushedTo_eq_zero others]
    · rw [if_neg fallback, if_neg fallback]
  · rw [inputTo_append, silent, Nat.add_zero, SplitFill.inputTo_events others, if_pos rfl]

theorem ExactChain.splitRun (chain : ExactChain x (resolveToken a.tokenIn) pool)
    (outside : x.sender ≠ x.self) (away : a.recipient ≠ x.self)
    (unwrapped : a.tokenOut = ethSentinel → a.recipient ≠ weth)
    (h : SplitRun x a s out s') :
    ∃ events, s'.logs = s.logs ++ events ∧ InputCustody x pool a events s.ledger s'.ledger := by
  obtain ⟨f, _, filled, logs⟩ := h.filled
  have custody := chain.splitCustody [] outside (fun _ => rfl) rfl filled fun L₃ forwarded =>
    chain.forwarded away unwrapped forwarded
  rw [List.append_nil] at custody
  exact ⟨_, logs, custody⟩

theorem ExactChain.splitFeeRun (chain : ExactChain x (resolveToken a.tokenIn) pool)
    (outside : x.sender ≠ x.self) (away : a.recipient ≠ x.self) (feeAway : fee.recipient ≠ x.self)
    (unwrapped : a.tokenOut = ethSentinel → a.recipient ≠ weth ∧ fee.recipient ≠ weth)
    (h : SplitFeeRun x a fee s out s') :
    ∃ events, s'.logs = s.logs ++ events ∧ InputCustody x pool a events s.ledger s'.ledger := by
  obtain ⟨grossMin, _, f, L₀, L₁, filled, paid, logs⟩ := h.filled
  rw [List.append_assoc] at logs
  have there : measuredAt x a.tokenOut x.self = x.self := ite_self _
  refine ⟨_, logs, chain.splitCustody _ outside (fun who => inputTo_feeEvents who _ _ fee)
    (sum_amountIn_feeEvents _ _ fee) filled fun L₃ forwarded => ?_⟩
  rw [there]
  exact chain.skimmed filled.distinct away feeAway unwrapped forwarded paid

end Shapes

end Custody

/-- The message call: the attached value arrives before the code runs. -/
def SwapCall.transact (x : Ctx) (call : SwapCall) : RouterM Nat := fun s =>
  call.run x { s with ledger := s.ledger.pay x.sender x.self x.value }

/-- The payees of a call, which are not the router, nor paid in ETH the WETH contract,
    which would wrap it for the router. -/
structure PayeesApart (x : Ctx) (call : SwapCall) : Prop where
  recipient : call.args.recipient ≠ x.self
  feeRecipient : ∀ fee, call.fee? = some fee → fee.recipient ≠ x.self
  unwrapped : call.args.tokenOut = ethSentinel → call.args.recipient ≠ weth ∧
    ∀ fee, call.fee? = some fee → fee.recipient ≠ weth

theorem ExactChain.completed {x : Ctx} {pool : Address → Address} {call : SwapCall}
    {s s' : ChainState} {out : Nat} (chain : ExactChain x (resolveToken call.args.tokenIn) pool)
    (outside : x.sender ≠ x.self) (apart : PayeesApart x call) (h : Completed x call s out s') :
    ∃ events, s'.logs = s.logs ++ events ∧ InputCustody x pool call.args events s.ledger
      s'.ledger := by
  obtain ⟨away, feeAway, unwrapped⟩ := apart
  unfold Completed at h
  split at h
  · exact chain.plainRun outside away (fun eth => (unwrapped eth).1) h
  · rename_i fee _ charged
    exact chain.feeRun outside away (feeAway fee charged)
      (fun eth => ⟨(unwrapped eth).1, (unwrapped eth).2 fee charged⟩) h
  · exact chain.splitRun outside away (fun eth => (unwrapped eth).1) h
  · rename_i fee _ charged
    exact chain.splitFeeRun outside away (feeAway fee charged)
      (fun eth => ⟨(unwrapped eth).1, (unwrapped eth).2 fee charged⟩) h

theorem ExactChain.enter {x : Ctx} {tokenIn : Address} {pool : Address → Address}
    (chain : ExactChain x tokenIn pool) : ExactChain x.enter tokenIn pool where
  router token step := chain.router token (step_enter.mp step)
  account who other step := chain.account who other (step_enter.mp step)
  native := chain.native
  approved step := chain.approved (step_enter.mp step)
  kept step := chain.kept (step_enter.mp step)

theorem Wrapped.value {x : Ctx} {tokenIn : Address} {amountIn : Nat} {L L' : Ledger}
    (h : Wrapped x tokenIn amountIn L L') :
    x.value = if tokenIn = ethSentinel then amountIn else 0 := by
  unfold Wrapped at h
  by_cases eth : tokenIn = ethSentinel
  · rw [if_pos eth] at h ⊢
    exact h.1
  · rw [if_neg eth] at h ⊢
    exact h.1

theorem Pulled.value {x : Ctx} {tokenIn : Address} {amountIn : Nat} {L L' : Ledger}
    (h : Pulled x tokenIn amountIn L L') :
    x.value = if tokenIn = ethSentinel then amountIn else 0 := by
  unfold Pulled at h
  by_cases eth : tokenIn = ethSentinel
  · rw [if_pos eth] at h ⊢
    exact h.1
  · rw [if_neg eth] at h ⊢
    exact h.1

/-- A successful call came with exactly the ETH it sells. -/
theorem Completed.value {x : Ctx} {call : SwapCall} {s s' : ChainState} {out : Nat}
    (h : Completed x call s out s') :
    x.value = if call.args.tokenIn = ethSentinel then call.args.amountIn else 0 := by
  unfold Completed at h
  split at h
  · obtain ⟨_, _, _, _, swapped, _⟩ := h.quoted
    exact swapped.wrapped.value
  · obtain ⟨_, _, _, _, _, _, _, _, _, swapped, _⟩ := h.quoted
    exact swapped.wrapped.value
  · obtain ⟨_, _, filled, _⟩ := h.filled
    obtain ⟨_, _, _, pulled, _⟩ := filled.run
    exact pulled.value
  · obtain ⟨_, _, _, _, _, filled, _⟩ := h.filled
    obtain ⟨_, _, _, pulled, _⟩ := filled.run
    exact pulled.value

/-- Exactly-once custody of the input. The call cost the caller exactly `amountIn`, which
    went to the venues that filled and to the fallback's pool, as the logged swaps tell
    it; the router ends with what it held, and approves nobody. -/
structure CustodyKept (x : Ctx) (pool : Address → Address) (call : SwapCall) (s s' : ChainState) :
    Prop where
  value : x.value = if call.args.tokenIn = ethSentinel then call.args.amountIn else 0
  account : ∃ events, s'.logs = s.logs ++ events ∧ (events.map Event.amountIn).sum =
    call.args.amountIn ∧
    ∀ who, who ≠ x.self →
      s'.ledger.balance (resolveToken call.args.tokenIn) who +
          (if call.args.tokenIn ≠ ethSentinel ∧ x.sender = who then call.args.amountIn else 0) =
        s.ledger.balance (resolveToken call.args.tokenIn) who +
          (if who = x.storage.fallbackSwapRouter then 0 else inputTo who events) +
          if pool x.storage.fallbackSwapRouter = who then inputTo x.storage.fallbackSwapRouter
            events else 0
  router : ∀ token, s'.ledger.balance token x.self = s.ledger.balance token x.self
  native : s'.ledger.native x.self = s.ledger.native x.self
  allowance : s'.ledger.allowance (resolveToken call.args.tokenIn)
    x.self x.storage.fallbackSwapRouter = 0

theorem input_custody {x : Ctx} {pool : Address → Address} {call : SwapCall} {s s' : ChainState}
    {amountOut : Nat} (chain : ExactChain x (resolveToken call.args.tokenIn) pool)
    (outside : x.sender ≠ x.self) (apart : PayeesApart x call)
    (cleared : s.ledger.allowance (resolveToken call.args.tokenIn)
      x.self x.storage.fallbackSwapRouter = 0)
    (run : call.transact x s = .ok amountOut s') : CustodyKept x pool call s s' := by
  have completed := completed_of_run run
  have apartInside : PayeesApart x.enter call := ⟨apart.1, apart.2, apart.3⟩
  obtain ⟨events, logs, custody⟩ := chain.enter.completed outside apartInside completed
  have value : x.value = _ := completed.value
  constructor
  · exact value
  · exact ⟨events, logs, custody.sold, custody.account⟩
  · exact custody.router
  · have native := custody.native
    have attached : (s.ledger.pay x.sender x.self x.value).native x.self = s.ledger.native x.self +
        x.value := by
      rw [Ledger.pay_native, if_neg outside.symm, if_pos rfl]
    change _ = (s.ledger.pay x.sender x.self x.value).native x.self at native
    rw [attached, value] at native
    exact Nat.add_right_cancel native
  · exact custody.allowance cleared

/-! ## The mocks -/

section Mocks

variable {m : Mocks} {t source target : Address} {amount : Nat} {L L' : Ledger}

/-- A plain token moves the nominal amount. -/
theorem Mocks.transfer_exact (plain : m.transferFeeBps t = 0) (token who : Address)
    (h : m.transfer t source target amount L = some L') :
    (L'.balance token who : ℤ) = L.balance token who + if t = token then
        (if target = who then (amount : ℤ) else 0) - if source = who then (amount : ℤ) else 0
      else 0 := by
  have moved := Mocks.transfer_balance token who h
  rwa [plain, Nat.mul_zero, Nat.zero_div, Nat.sub_zero, Nat.cast_zero, ite_self, add_zero] at moved

theorem Mocks.transferFrom_exact {spender : Address} (plain : m.transferFeeBps t = 0)
    (token who : Address) (h : m.transferFrom t source target spender amount L = some L') :
    (L'.balance token who : ℤ) = L.balance token who + if t = token then
        (if target = who then (amount : ℤ) else 0) - if source = who then (amount : ℤ) else 0
      else 0 := by
  have moved := Mocks.transferFrom_balance token who h
  rwa [plain, Nat.mul_zero, Nat.zero_div, Nat.sub_zero, Nat.cast_zero, ite_self, add_zero] at moved

theorem Ledger.credit_kept (L : Ledger) {token holder t who : Address} (n : Nat)
    (apart : ¬ (t = token ∧ holder = who)) :
    (L.credit t holder n).balance token who = L.balance token who := by
  rw [credit_balance, if_neg apart, Nat.add_zero]

/-- What a mock call does to any balance it does not deliver to: the tokens are plain,
    the quotes honest, and a swap router is its own pool. -/
theorem Mocks.env_balance (plain : ∀ token, m.transferFeeBps token = 0)
    (honest : ∀ venue, m.stealAmount venue = 0) {x : Ctx} (self : x.self = m.router) {c : ExtCall}
    {ret : List Word} (token who : Address)
    (foreign : c.callee ≠ x.self) (predicted : ¬ Unpredicted x token who c)
    (answer : m.env [] c L = some (ret, L')) :
    (L'.balance token who : ℤ) = L.balance token who +
      if who = x.self then routerFlow x token (fun _ => 0) c else accountFlow id token who c := by
  cases c with
  | safeTransfer t target amount =>
      obtain ⟨K, transferred, rest⟩ := Option.map_eq_some_iff.mp answer
      cases rest
      have away : target ≠ x.self := predicted
      have moved := Mocks.transfer_exact (plain t) token who transferred
      rw [← self] at moved
      rw [moved]
      simp only [routerFlow, accountFlow, @eq_comm _ who]
      by_cases here : x.self = who
      · have gone : target ≠ who := here ▸ away
        simp [here, gone]
      · by_cases same : t = token <;> simp [here, same]
  | safeTransferFrom t source target amount =>
      obtain ⟨K, transferred, rest⟩ := Option.map_eq_some_iff.mp answer
      cases rest
      have moved := Mocks.transferFrom_exact (plain t) token who transferred
      rw [moved]
      simp only [routerFlow, accountFlow, Nat.cast_zero, sub_zero]
      by_cases here : who = x.self
      · rw [if_pos here, here]
      · rw [if_neg here]
  | forceApprove t spender amount =>
      cases answer
      simp [routerFlow, accountFlow]
  | deposit amount =>
      cases answer
      simp only [Ledger.credit, routerFlow, accountFlow, ← self]
      by_cases here : who = x.self <;> by_cases same : token = weth <;> simp [here, same]
  | withdraw amount =>
      simp only [Mocks.env] at answer
      split at answer
      · cases answer
      · rename_i enough
        cases answer
        rw [Ledger.pay_balance]
        simp only [Ledger.debit, routerFlow, accountFlow, ← self]
        rw [← self] at enough
        by_cases here : who = x.self
        · by_cases same : token = weth
          · simp only [here, same, and_self, if_true]
            omega
          · simp [here, same]
        · simp [here]
  | sendValue target amount =>
      have kept : target ≠ weth := predicted
      cases answer
      simp [routerFlow, accountFlow, kept]
  | supportsInterface venue =>
      cases answer
      simp [routerFlow, accountFlow]
  | quote venue tokenIn tokenOut amountIn =>
      simp only [Mocks.env, honest] at answer
      obtain ⟨q, _, rest⟩ := Option.map_eq_some_iff.mp answer
      cases rest
      simp [routerFlow, accountFlow, Ledger.debit]
  | quoteFillable | quoteExactInputSingle =>
      obtain ⟨q, _, rest⟩ := Option.map_eq_some_iff.mp answer
      cases rest
      simp [routerFlow, accountFlow]
  | swap venue tokenIn tokenOut amountIn minAmountOut recipient deadline =>
      obtain ⟨out, _, rest⟩ := Option.map_eq_some_iff.mp answer
      cases rest
      rw [Ledger.credit_kept _ _ predicted]
      simp [routerFlow, accountFlow]
  | exactInputSingle swapRouter tokenIn tokenOut fee recipient amountIn amountOutMinimum =>
      obtain ⟨K, transferred, rest⟩ := Option.bind_eq_some_iff.mp answer
      obtain ⟨out, _, rest⟩ := Option.bind_eq_some_iff.mp rest
      cases rest
      have away : swapRouter ≠ x.self := foreign
      have moved := Mocks.transferFrom_exact (plain tokenIn) token who transferred
      rw [← self] at moved
      rw [Ledger.credit_kept _ _ predicted, moved]
      simp only [routerFlow, accountFlow, id_eq, @eq_comm _ who]
      by_cases here : x.self = who
      · have gone : swapRouter ≠ who := here ▸ away
        simp [here, gone]
      · by_cases same : tokenIn = token <;> simp [here, same]

theorem Mocks.transferFrom_allowance {spender token owner other : Address} (apart : other ≠ spender)
    (h : m.transferFrom t source target spender amount L = some L') :
    L'.allowance token owner other = L.allowance token owner other := by
  unfold Mocks.transferFrom Mocks.transfer at h
  split at h
  · cases h
  · split at h
    · cases h
    · cases h
      simp only [Ledger.credit_allowance, Ledger.debit_allowance, Ledger.approve]
      rw [if_neg fun all => apart all.2.2]

/-- Only an approval and a swap of Uniswap touch what the fallback may pull. -/
theorem Mocks.env_allowance {c : ExtCall} {ret : List Word} {other : Address}
    (token owner : Address) (apart : other ≠ m.router) (keeps : c.approves = false)
    (answer : m.env [] c L = some (ret, L')) :
    L'.allowance token owner other = L.allowance token owner other := by
  cases c with
  | safeTransfer t target amount =>
      obtain ⟨K, transferred, rest⟩ := Option.map_eq_some_iff.mp answer
      cases rest
      unfold Mocks.transfer at transferred
      split at transferred
      · cases transferred
      · cases transferred
        rfl
  | safeTransferFrom t source target amount =>
      obtain ⟨K, transferred, rest⟩ := Option.map_eq_some_iff.mp answer
      cases rest
      exact Mocks.transferFrom_allowance apart transferred
  | deposit | supportsInterface =>
      cases answer
      rfl
  | withdraw amount =>
      simp only [Mocks.env] at answer
      split at answer <;> cases answer
      rfl
  | sendValue target amount =>
      cases answer
      split <;> rfl
  | quote venue tokenIn tokenOut amountIn =>
      simp only [Mocks.env] at answer
      split at answer
      · cases answer
      · obtain ⟨q, _, rest⟩ := Option.map_eq_some_iff.mp answer
        cases rest
        rfl
  | quoteFillable | quoteExactInputSingle | swap =>
      obtain ⟨q, _, rest⟩ := Option.map_eq_some_iff.mp answer
      cases rest
      rfl
  | forceApprove | exactInputSingle => cases keeps

/-- Mocks of plain tokens and honest quotes move everything exactly. -/
theorem Mocks.exactChain (plain : ∀ token, m.transferFeeBps token = 0)
    (honest : ∀ venue, m.stealAmount venue = 0) (apart : 0xFB ≠ m.router)
    (account : m.router ≠ weth) (whitelist : EnumerableSet Address) (sender : Address)
    (value : Nat) (tokenIn : Address) : ExactChain (m.ctx whitelist sender value) tokenIn id where
  router {c L L'} token step predicted := by
    obtain ⟨history, ret, answer⟩ := step.answer
    have moved := Mocks.env_balance plain honest rfl token m.router step.foreign predicted answer
    have own : m.router = (m.ctx whitelist sender value).self := rfl
    rwa [Ledger.pay_balance, if_pos own] at moved
  account {c L L'} who other step predicted := by
    obtain ⟨history, ret, answer⟩ := step.answer
    have moved := Mocks.env_balance plain honest rfl tokenIn who step.foreign predicted answer
    rwa [Ledger.pay_balance, if_neg other] at moved
  native := m.keepsETH whitelist sender value account
  approved {token spender amount L L'} step := by
    obtain ⟨history, ret, answer⟩ := step.answer
    cases answer
    simp only [Ledger.approve, Mocks.ctx, and_self, if_true]
  kept {c L L'} step keeps := by
    obtain ⟨history, ret, answer⟩ := step.answer
    have same := Mocks.env_allowance tokenIn m.router apart keeps answer
    rwa [Ledger.pay_allowance] at same

end Mocks

/-- The sample caller attaches a hundred wei. -/
def payingCtx : Ctx := { sampleCtx with value := 100 }

/-- On a chain where everything moves exactly, ETH paid to WETH comes back to the
    router as WETH. -/
theorem input_custody_wrapped :
    ExactChain sampleCtx 0x11 id ∧ (ChainState.start (.funded 1000)).ledger.balance weth 0x50 = 0 ∧
      ∃ s', (SwapCall.swapV1 ⟨0x11, ethSentinel, 100, 90, weth, 10⟩).transact sampleCtx
        (.start (.funded 1000)) =
        .ok 200 s' ∧ s'.ledger.balance weth 0x50 = 200 := by
  refine ⟨?_, by decide, ?_⟩
  · exact Mocks.exactChain (fun _ => rfl) (fun _ => rfl) (by decide) (by decide) _ _ _ _
  · exact exists_outcome (f := fun s' : ChainState => s'.ledger.balance weth 0x50)
      (by decide +kernel)

/-- The sample split, of which one leg fails and falls to Uniswap, and a fee form that
    sells ETH to a venue. -/
theorem input_custody_sample :
    (∃ s', (sampleSplit 0x22).transact sampleCtx (.start (.funded 1000)) = .ok 194 s' ∧
      CustodyKept sampleCtx id (sampleSplit 0x22) (.start (.funded 1000)) s') ∧
    ∃ s', (SwapCall.swapWithFeeV1 ⟨ethSentinel, 0x22, 100, 90, 0xBE, 10⟩ ⟨100, 0xFE⟩).transact
      payingCtx (.start (.funded 1000)) = .ok 198 s' ∧
      CustodyKept payingCtx id (.swapWithFeeV1 ⟨ethSentinel, 0x22, 100, 90, 0xBE, 10⟩ ⟨100, 0xFE⟩)
        (.start (.funded 1000)) s' := by
  constructor
  · obtain ⟨s', run⟩ := exists_ok (m := (sampleSplit 0x22).transact sampleCtx)
      (s := .start (.funded 1000)) (a := 194) (by decide +kernel)
    have chain : ExactChain sampleCtx 0x11 id :=
      Mocks.exactChain (fun _ => rfl) (fun _ => rfl) (by decide) (by decide) _ _ _ _
    have apart : PayeesApart sampleCtx (sampleSplit 0x22) := by
      refine ⟨by decide, ?_, fun eth => absurd eth (by decide)⟩
      intro fee given
      cases given
    have kept := input_custody chain (by decide) apart (by decide) run
    exact ⟨s', run, kept⟩
  · obtain ⟨s', run⟩ := exists_ok (a := 198) (s := .start (.funded 1000))
      (m := (SwapCall.swapWithFeeV1 ⟨ethSentinel, 0x22, 100, 90, 0xBE, 10⟩ ⟨100, 0xFE⟩).transact
        payingCtx)
      (by decide +kernel)
    have chain : ExactChain payingCtx weth id :=
      Mocks.exactChain (fun _ => rfl) (fun _ => rfl) (by decide) (by decide) _ _ _ _
    have apart :
        PayeesApart payingCtx
          (.swapWithFeeV1 ⟨ethSentinel, 0x22, 100, 90, 0xBE, 10⟩ ⟨100, 0xFE⟩) := by
      refine ⟨by decide, ?_, fun eth => absurd eth (by decide)⟩
      intro fee given
      cases given
      decide
    have kept := input_custody chain (by decide) apart (by decide) run
    exact ⟨s', run, kept⟩

end PropAMM
