import PropAMM.Router.Effects
import PropAMM.Router.PlanSafety
import PropAMM.Router.Slippage

/-! # Tokens standing on the router

Legs and the Uniswap remainder are sized from the nominal `amountIn`. What a
swap takes from the router's standing balance is therefore at most what the
caller's transfer lost on the way: nothing, for a token that credits in full.
-/

namespace PropAMM

open Txn FrontendFees

/-- Quotes apart, no call takes more of the router's `token` than it says, and a
    transfer of `amount` to the router credits all but `lost amount`. -/
def SpendsNominal (x : Ctx) (token : Address) (lost : Nat → Nat) : Prop :=
  ∀ {c L L'}, c.isQuote = false → Step x c L L' →
    (L.balance token x.self : ℤ) + routerFlow x token lost c ≤ L'.balance token x.self

section Spends

variable {x : Ctx} {token : Address} {lost : Nat → Nat} {L L' : Ledger}

theorem SpendsNominal.follow (spends : SpendsNominal x token lost) {calls : List ExtCall}
    (h : Steps x calls L L') :
    (L.balance token x.self : ℤ) + routerGain x token lost calls ≤ L'.balance token x.self :=
  h.follow_le (φ := fun L => (L.balance token x.self : ℤ)) fun _ _ _ _ acted =>
    spends acted.acts acted.step

/-- Forwarding unwraps `tokenOut` only. -/
theorem SpendsNominal.forwarded (spends : SpendsNominal x token lost) {tokenOut target : Address}
    {amount : Nat} (other : token ≠ resolveToken tokenOut)
    (h : Forwarded x tokenOut target amount L L') :
    L.balance token x.self ≤ L'.balance token x.self := by
  have gain := spends.follow h.steps
  rw [routerGain_forwardCalls, if_neg] at gain
  · omega
  · rintro ⟨eth, wrapped⟩
    rw [eth, resolveToken_sentinel] at other
    exact other wrapped

theorem SpendsNominal.paid (spends : SpendsNominal x token lost) {tokenOut target : Address}
    {amount : Nat} (other : token ≠ resolveToken tokenOut)
    (h : Paid x tokenOut target amount L L') :
    L.balance token x.self ≤ L'.balance token x.self := by
  have gain := spends.follow h.steps
  rw [routerGain_paymentCalls, if_neg] at gain
  · omega
  · rintro ⟨nonEth, same⟩
    rw [resolveToken_token nonEth] at other
    exact other same.symm

theorem SpendsNominal.skimmed (spends : SpendsNominal x token lost) {tokenOut recipient : Address}
    {fee : FrontendFee} {delivered amountOutMin out : Nat} {L₁ : Ledger}
    (other : token ≠ resolveToken tokenOut)
    (h : SkimmedAndDisbursed x tokenOut delivered fee recipient amountOutMin L L₁ out L') :
    L.balance token x.self ≤ L'.balance token x.self :=
  Nat.le_trans (spends.paid other h.skimmed) (spends.paid other h.disbursed.paid)

/-- The venue is paid by the caller, and what the fallback pulls the caller has just sent. -/
theorem SpendsNominal.coreSwapped {venue executed : Address} {a : SwapArgs}
    {L₀ : Ledger} {out : Nat} (spends : SpendsNominal x a.tokenIn lost)
    (erc20 : a.tokenIn ≠ ethSentinel) (outside : x.sender ≠ x.self)
    (h : CoreSwapped x venue a L L₀ out executed L') :
    L.balance a.tokenIn x.self ≤ L'.balance a.tokenIn x.self + lost a.amountIn := by
  obtain ⟨wrapped, distinct, run⟩ := h
  rw [Wrapped, if_neg erc20] at wrapped
  rw [resolveToken_token erc20] at distinct run
  rw [wrapped.2] at run
  rcases run with ⟨_, filled⟩ | ⟨_, fellBack⟩
  · obtain ⟨L₁, dispatched, forwarded⟩ := filled.calls
    have pushed := spends.follow dispatched.steps
    rw [routerGain_dispatchCalls dispatched.foreign, if_neg] at pushed
    · have sent := spends.forwarded distinct forwarded
      omega
    · rintro ⟨_, own⟩
      rw [payerOf, if_neg erc20] at own
      exact outside own
  · obtain ⟨L₁, L₂, pulled, exchanged, _, forwarded⟩ := fellBack.calls
    rw [if_neg erc20] at pulled
    have credited := spends.follow pulled.acted
    have taken := spends.follow exchanged.steps
    have sent := spends.forwarded distinct forwarded
    rw [routerGain_exchangeCalls, if_pos rfl] at taken
    simp only [routerGain_cons, routerGain_nil, routerFlow, if_true, outside, if_false] at credited
    omega

/-- The quote phase of a split may not leave the router with less. -/
theorem planSplit_bracket {venueSet : List Address} {tokenIn_ tokenOut_ : Address} {amountIn : Nat}
    {s s' : ChainState} {legs : List Leg}
    (run : planSplit x venueSet tokenIn_ tokenOut_ amountIn s = .ok legs s') :
    s.ledger.balance tokenIn_ x.self ≤ s'.ledger.balance tokenIn_ x.self := by
  have bracket : Ensures (planSplit x venueSet tokenIn_ tokenOut_ amountIn) s (fun _ s' =>
      s.ledger.balance tokenIn_ x.self ≤ s'.ledger.balance tokenIn_ x.self) := by
    simp only [planSplit, Ensures, wp_bind, wp_balanceOf]
    refine Ensures.mono (ensures_iff.mpr fun _ _ _ => trivial) fun legs s₁ _ => ?_
    simp only [wp_require, wp_pure, implies_true, and_true]
    exact fun kept => kept
  exact wp_ok
    (Q := fun _ s' => s.ledger.balance tokenIn_ x.self ≤ s'.ledger.balance tokenIn_ x.self) bracket
      run

/-- The legs and the remainder take `amountIn` in all, which the caller has sent before. -/
theorem SpendsNominal.splitFilled {a : SwapArgs} {amountOutMin : Nat} {payTo : Address}
    {L₀ : Ledger} {f : SplitFill} (spends : SpendsNominal x a.tokenIn lost)
    (erc20 : a.tokenIn ≠ ethSentinel)
    (outside : x.sender ≠ x.self) (h : SplitFilled x a amountOutMin payTo L L₀ f L') :
    L.balance a.tokenIn x.self ≤ L'.balance a.tokenIn x.self + lost a.amountIn := by
  obtain ⟨s₁, s₂, legs, pulled, planned, start, executed⟩ := h.run
  obtain ⟨L₁, L₂, runs, absorbed, forwarded⟩ := executed.calls
  have distinct := h.distinct
  rw [resolveToken_token erc20] at distinct planned
  have credited := spends.follow pulled.steps
  have kept := planSplit_bracket planned
  have sold := spends.follow runs.steps
  have taken := spends.follow absorbed.steps
  have sent := spends.forwarded distinct forwarded
  have counted := runs.allocation
  have token : (legRunOf a amountOutMin payTo).tokenIn_ = a.tokenIn := resolveToken_token erc20
  have total : (legRunOf a amountOutMin payTo).totalIn = a.amountIn := rfl
  rw [routerGain_pullCalls outside, resolveToken_token erc20, if_pos rfl, if_neg erc20] at credited
  rw [routerGain_legCalls runs.foreign, if_pos token] at sold
  rw [routerGain_absorbCalls, if_pos token] at taken
  rw [executed.allocated, total] at counted
  rw [start] at kept
  omega

theorem SpendsNominal.completed {call : SwapCall} {s s' : ChainState} {out : Nat}
    (spends : SpendsNominal x call.args.tokenIn lost) (erc20 : call.args.tokenIn ≠ ethSentinel)
    (outside : x.sender ≠ x.self) (quotes : call.isSplit = false → QuotesSpare x call.args.tokenIn)
    (h : Completed x call s out s') :
    s.ledger.balance call.args.tokenIn x.self ≤ s'.ledger.balance call.args.tokenIn x.self +
      lost call.args.amountIn := by
  unfold Completed at h
  split at h
  · rename_i single _
    obtain ⟨L₁, quoted, _, _, swapped, _⟩ := h.quoted
    exact Nat.le_trans (quoted.spare (quotes single)) (spends.coreSwapped erc20 outside swapped)
  · rename_i single _
    obtain ⟨L₁, quoted, grossMin, _, _, L₀, delivered, _, L₂, swapped, paid, _⟩ := h.quoted
    have before := quoted.spare (quotes single)
    have spent := SpendsNominal.coreSwapped (a := call.args.gross x grossMin) spends erc20
      outside swapped
    have other : call.args.tokenIn ≠ resolveToken call.args.tokenOut := by
      have distinct := swapped.distinct
      rwa [SwapArgs.gross, resolveToken_token erc20] at distinct
    have after := spends.skimmed other paid
    exact Nat.le_trans before (Nat.le_trans spent (Nat.add_le_add_right after _))
  · obtain ⟨f, _, filled, _⟩ := h.filled
    exact spends.splitFilled erc20 outside filled
  · obtain ⟨grossMin, _, f, L₀, L₂, filled, paid, _⟩ := h.filled
    have spent := spends.splitFilled erc20 outside filled
    have other : call.args.tokenIn ≠ resolveToken call.args.tokenOut := by
      have distinct := filled.distinct
      rwa [resolveToken_token erc20] at distinct
    have after := spends.skimmed other paid
    exact Nat.le_trans spent (Nat.add_le_add_right after _)

end Spends

/-- What stands on the router is spent at most by what the caller's transfer lost. The
    quotes of a split are bracketed; those of the other forms must spare the router. -/
theorem standing_tokens_kept {x : Ctx} {call : SwapCall} {s s' : ChainState} {amountOut : Nat}
    {lost : Nat → Nat} (erc20 : call.args.tokenIn ≠ ethSentinel) (outside : x.sender ≠ x.self)
    (spends : SpendsNominal x call.args.tokenIn lost)
    (quotes : call.isSplit = false → QuotesSpare x call.args.tokenIn)
    (run : call.run x s = .ok amountOut s') :
    s.ledger.balance call.args.tokenIn x.self ≤ s'.ledger.balance call.args.tokenIn x.self +
      lost call.args.amountIn := by
  have spendsInside : SpendsNominal x.enter call.args.tokenIn lost :=
    fun acts step => spends acts (step_enter.mp step)
  have quotesInside : call.isSplit = false → QuotesSpare x.enter call.args.tokenIn :=
    fun single c L L' allowed step => quotes single c L L' allowed (step_enter.mp step)
  exact spendsInside.completed erc20 outside quotesInside (completed_of_run run)

/-! ## The mocks -/

theorem Ledger.le_credit (L : Ledger) (token holder : Address) (n : Nat) (t who : Address) :
    L.balance t who ≤ (L.credit token holder n).balance t who := by
  rw [credit_balance]
  exact Nat.le_add_right _ _

/-- The mocks take what they are told to, and burn their own fee of a transfer. -/
theorem Mocks.spendsNominal (m : Mocks) (whitelist : EnumerableSet Address) (sender : Address)
    (value : Nat) (token : Address) : SpendsNominal (m.ctx whitelist sender value) token
      (fun amount => amount * m.transferFeeBps token / 10000) := by
  intro c L L' acts step
  obtain ⟨history, ret, answer⟩ := step.answer
  change m.env history c (L.pay m.router c.callee c.value) = some (ret, L') at answer
  change (L.balance token m.router : ℤ) + _ ≤ L'.balance token m.router
  -- The attached value moves no token.
  generalize paid : L.pay m.router c.callee c.value = P at answer
  have same : P.balance = L.balance := by rw [← paid, Ledger.pay_balance]
  rw [← same]
  cases c with
  | safeTransfer t target amount =>
      obtain ⟨K, transferred, rest⟩ := Option.map_eq_some_iff.mp answer
      cases rest
      have gain := Mocks.transfer_balance token m.router transferred
      change _ + (if t = token then -(amount : ℤ) else 0) ≤ _
      by_cases moved : t = token
      · rw [if_pos moved] at gain ⊢
        split_ifs at gain <;> omega
      · rw [if_neg moved] at gain ⊢
        exact gain.ge
  | safeTransferFrom t source target amount =>
      obtain ⟨K, transferred, rest⟩ := Option.map_eq_some_iff.mp answer
      cases rest
      have gain := Mocks.transferFrom_balance token m.router transferred
      change _ + (if t = token then
          (if target = m.router then (amount : ℤ) - (amount * m.transferFeeBps token / 10000 : ℕ)
            else 0) -
            if source = m.router then (amount : ℤ) else 0
        else 0) ≤ _
      by_cases moved : t = token
      · subst moved
        rw [if_pos rfl] at gain ⊢
        split_ifs at gain ⊢ <;> omega
      · rw [if_neg moved] at gain ⊢
        exact gain.ge
  | forceApprove t spender amount =>
      cases answer
      simp [routerFlow]
  | deposit amount =>
      cases answer
      simp only [routerFlow, Ledger.credit, and_true]
      split <;> simp
  | withdraw amount =>
      simp only [Mocks.env] at answer
      split at answer
      · cases answer
      · cases answer
        simp only [routerFlow, Ledger.debit, Ledger.pay_balance, and_true]
        split <;> omega
  | sendValue target amount =>
      cases answer
      have kept : P.balance token m.router ≤
          (if target = weth then P.credit weth m.router amount else P).balance token m.router := by
        split
        · exact Ledger.le_credit ..
        · exact Nat.le_refl _
      simpa [routerFlow] using kept
  | swap venue tokenIn tokenOut amountIn minAmountOut recipient deadline =>
      obtain ⟨out, _, rest⟩ := Option.map_eq_some_iff.mp answer
      cases rest
      have kept := Ledger.le_credit P tokenOut recipient out token m.router
      simpa [routerFlow] using kept
  | exactInputSingle swapRouter tokenIn tokenOut fee recipient amountIn amountOutMinimum =>
      obtain ⟨K, transferred, rest⟩ := Option.bind_eq_some_iff.mp answer
      obtain ⟨out, _, rest⟩ := Option.bind_eq_some_iff.mp rest
      cases rest
      have gain := Mocks.transferFrom_balance token m.router transferred
      have kept := Ledger.le_credit K tokenOut recipient out token m.router
      change _ + (if tokenIn = token then -(amountIn : ℤ) else 0) ≤ _
      by_cases moved : tokenIn = token
      · rw [if_pos moved] at gain ⊢
        split_ifs at gain <;> omega
      · rw [if_neg moved] at gain ⊢
        omega
  | supportsInterface | quote | quoteFillable | quoteExactInputSingle => cases acts

/-- A thousand of `0x11` stands on the router. -/
def standingLedger : Ledger := (Ledger.funded 1000).credit 0x11 0x50 1000

/-- `0x11` takes one per cent of a transfer, and `0xA1` fills at one for one. -/
def skimmingMocks : Mocks :=
  { Mocks.plain fun venue n => if venue = 0xA1 then some n else none with
    transferFeeBps := fun token => if token = 0x11 then 100 else 0 }

/-- Each quote of `0xA1` burns five of the router's `tokenIn`. -/
def thievingMocks : Mocks :=
  { Mocks.plain fun venue n => if venue = 0xA1 then some n else none with
    stealAmount := fun venue => if venue = 0xA1 then 5 else 0 }

/-- Standing tokens make up for what a transfer to the router lost, in a fallback and
    in a split; and a quote of the plain form can take them. -/
theorem standing_tokens_spent :
    standingLedger.balance 0x11 0x50 = 1000 ∧
      (∃ s', (SwapCall.swapV1 ⟨0x11, 0x22, 100, 0, 0xBE, 10⟩).run
        (skimmingMocks.ctx ⟨[], by decide⟩ 0xCA 0) (.start standingLedger) = .ok 100 s' ∧
        s'.ledger.balance 0x11 0x50 = 999) ∧
      (∃ s', (SwapCall.swapSplitV1 ⟨0x11, 0x22, 100, 0, 0xBE, 10⟩).run
        (skimmingMocks.ctx ⟨[0xA1], by decide⟩ 0xCA 0) (.start standingLedger) = .ok 100 s' ∧
        s'.ledger.balance 0x11 0x50 = 999) ∧
      ∃ s', (SwapCall.swapV1 ⟨0x11, 0x22, 100, 0, 0xBE, 10⟩).run
        (thievingMocks.ctx ⟨[0xA1], by decide⟩ 0xCA 0)
        (.start standingLedger) = .ok 100 s' ∧ s'.ledger.balance 0x11 0x50 = 995 := by
  refine ⟨by decide, ?_, ?_, ?_⟩
  · exact exists_outcome (f := fun s' : ChainState => s'.ledger.balance 0x11 0x50)
      (by decide +kernel)
  · exact exists_outcome (f := fun s' : ChainState => s'.ledger.balance 0x11 0x50)
      (by decide +kernel)
  · exact exists_outcome (f := fun s' : ChainState => s'.ledger.balance 0x11 0x50)
      (by decide +kernel)

/-- One lost of a fallback's hundred, and a split of a token that credits in full. -/
theorem standing_tokens_kept_sample :
    (∃ s', (SwapCall.swapV1 ⟨0x11, 0x22, 100, 0, 0xBE, 10⟩).run
      (skimmingMocks.ctx ⟨[], by decide⟩ 0xCA 0) (.start standingLedger) = .ok 100 s' ∧
      standingLedger.balance 0x11 0x50 ≤ s'.ledger.balance 0x11 0x50 + 1) ∧
    ∃ s', (SwapCall.swapSplitV1 ⟨0x11, 0x22, 100, 90, 0xBE, 10⟩).run sampleCtx
      (.start standingLedger) = .ok 194 s' ∧
      standingLedger.balance 0x11 0x50 ≤ s'.ledger.balance 0x11 0x50 := by
  constructor
  · obtain ⟨s', run⟩ := exists_ok (a := 100) (s := .start standingLedger)
      (m := (SwapCall.swapV1 ⟨0x11, 0x22, 100, 0, 0xBE, 10⟩).run
        (skimmingMocks.ctx ⟨[], by decide⟩ 0xCA 0))
      (by decide +kernel)
    have kept := standing_tokens_kept (by decide) (by decide) (skimmingMocks.spendsNominal _ _ _ _)
      (fun _ => skimmingMocks.quotesSpare (fun _ => rfl) _ _ _ _) run
    exact ⟨s', run, kept⟩
  · obtain ⟨s', run⟩ := exists_ok (a := 194) (s := .start standingLedger)
      (m := (SwapCall.swapSplitV1 ⟨0x11, 0x22, 100, 90, 0xBE, 10⟩).run sampleCtx)
        (by decide +kernel)
    have kept := standing_tokens_kept (by decide) (by decide) (sampleMocks.spendsNominal _ _ _ _)
      (fun single => by cases single) run
    exact ⟨s', run, kept⟩

end PropAMM
