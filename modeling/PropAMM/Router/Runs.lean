import Mathlib.Logic.Relation
import PropAMM.Router.SplitExecution

/-! # What a successful call consists of

Every swap entrypoint quotes, executes once or leg by leg, and for the fee forms
skims and disburses. `ensures_run` is the one inversion of all eight: a property
of successful calls follows from the four shapes they can have.
-/

namespace PropAMM

open Txn FrontendFees

/-! ## Quoting -/

/-- Some quotes were taken, and what reverted is undone. -/
def Quoted (x : Ctx) : Ledger → Ledger → Prop :=
  Relation.ReflTransGen fun L L' => ∃ c, QuoteAllowed x.storage c ∧ Step x c L L'

def QuotedFrame (x : Ctx) (s s' : ChainState) : Prop := Quoted x s.ledger s'.ledger ∧ Silent s s'

instance {x : Ctx} : Frame (QuotedFrame x) where
  refl _ := ⟨.refl, rfl, rfl⟩
  trans h h' := ⟨h.1.trans h'.1, h'.2.1.trans h.2.1, h'.2.2.trans h.2.2⟩
  rollback _ := ⟨.refl, rfl, rfl⟩

theorem quotedFrame (x : Ctx) : CallFrame x (QuotedFrame x) (QuoteAllowed x.storage) where
  recorded _ _ _ := ⟨.refl, rfl, rfl⟩
  called _ c _ _ allowed accepted := ⟨.single ⟨c, allowed, accepted.step⟩, rfl, rfl⟩

/-- Quotes keep what every quote call keeps. -/
theorem Quoted.keeps {x : Ctx} {L L' : Ledger} {K : Ledger → Ledger → Prop} (quoted : Quoted x L L')
    (refl : ∀ L, K L L) (trans : ∀ {L L' L''}, K L L' → K L' L'' → K L L'')
    (step : ∀ {c L L'}, QuoteAllowed x.storage c → Step x c L L' → K L L') : K L L' := by
  induction quoted with
  | refl => exact refl L
  | tail _ last ih =>
      obtain ⟨c, allowed, answered⟩ := last
      exact trans ih (step allowed answered)

/-! ## Skim and disburse -/

def paymentCall (token target : Address) (amount : Nat) : ExtCall :=
  if token = ethSentinel then .sendValue target amount else .safeTransfer token target amount

/-- Nothing is sent when nothing is due. -/
def Paid (x : Ctx) (token target : Address) (amount : Nat) (L L' : Ledger) : Prop :=
  if amount = 0 then L' = L else Step x (paymentCall token target amount) L L'

def feeEvents (x : Ctx) (tokenOut : Address) (feeAmt : Nat) (fee : FrontendFee) : List Event :=
  if feeAmt = 0 then [] else [.frontendFeeCharged fee.recipient tokenOut feeAmt x.sender]

theorem ensures_skim {x : Ctx} {tokenOut : Address} {feeAmt : Nat} {fee : FrontendFee}
    {s : ChainState} :
    Ensures (skim x tokenOut feeAmt fee) s
      (fun _ s' => Paid x tokenOut fee.recipient feeAmt s.ledger s'.ledger ∧
      s'.logs = s.logs ++ feeEvents x tokenOut feeAmt fee ∧ s'.mark = s.mark) := by
  unfold skim Paid feeEvents paymentCall
  by_cases none : feeAmt = 0
  · simp only [none, gt_iff_lt, lt_irrefl, if_false, if_true]
    exact ⟨rfl, by simp, rfl⟩
  · simp only [if_neg none, if_pos (Nat.pos_of_ne_zero none)]
    by_cases eth : tokenOut = ethSentinel
    · simp only [if_pos eth, Ensures, wp_bind]
      apply ensures_sendETH
      intro _ L₁ sent
      exact ⟨sent.step, rfl, rfl⟩
    · simp only [if_neg eth, Ensures, wp_bind, ensures_callExternal]
      intro _ L₁ sent
      exact ⟨sent.step, rfl, rfl⟩

/-- `out` is the nominal amount for ETH and the measured one for a token. -/
structure Disbursed (x : Ctx) (tokenOut recipient : Address) (net : Nat) (L : Ledger) (out : Nat)
    (L' : Ledger) : Prop where
  paid : Paid x tokenOut recipient net L L'
  measured : if tokenOut = ethSentinel then out = net
    else L'.balance tokenOut recipient = L.balance tokenOut recipient + out

theorem ensures_disburse {x : Ctx} {tokenOut recipient : Address} {net : Nat} {s : ChainState} :
    Ensures (disburse x tokenOut net recipient) s
      (fun out s' => Disbursed x tokenOut recipient net s.ledger out s'.ledger ∧ Silent s s') := by
  unfold disburse
  by_cases eth : tokenOut = ethSentinel
  · rw [if_pos eth]
    by_cases nonzero : net > 0
    · simp only [if_pos nonzero, Ensures, wp_bind]
      apply ensures_sendETH
      intro _ L₁ sent
      refine ⟨⟨?_, if_pos eth ▸ rfl⟩, rfl, rfl⟩
      rw [Paid, if_neg (by omega), paymentCall, if_pos eth]
      exact sent.step
    · simp only [if_neg nonzero, Ensures]
      refine ⟨⟨?_, if_pos eth ▸ rfl⟩, rfl, rfl⟩
      rw [Paid, if_pos (by omega)]
  · rw [if_neg eth]
    simp only [Ensures, wp_bind, wp_balanceOf, wp_ite, ensures_callExternal, wp_checkedSub,
      implies_true, and_true]
    constructor
    · intro nonzero _ L₁ sent covered
      rw [ChainState.called_ledger] at covered ⊢
      refine ⟨⟨?_, ?_⟩, rfl, rfl⟩
      · rw [Paid, if_neg (by omega), paymentCall, if_neg eth]
        exact sent.step
      · rw [if_neg eth]
        omega
    · intro none covered
      refine ⟨⟨?_, ?_⟩, rfl, rfl⟩
      · rw [Paid, if_pos (by omega)]
      · rw [if_neg eth]
        omega

/-- The fee taken from `delivered`, as `_feeAmount` computes it. -/
def feeOf (delivered bps : Nat) : Nat := delivered * bps / bpsDenominator

/-- A successful `_skimAndDisburse`; the disbursement starts on `L₁`. -/
structure SkimmedAndDisbursed (x : Ctx) (tokenOut : Address) (delivered : Nat) (fee : FrontendFee)
    (recipient : Address) (amountOutMin : Nat) (L L₁ : Ledger) (out : Nat) (L' : Ledger) :
    Prop where
  covered : feeOf delivered fee.bps ≤ delivered
  skimmed : Paid x tokenOut fee.recipient (feeOf delivered fee.bps) L L₁
  disbursed : Disbursed x tokenOut recipient (delivered - feeOf delivered fee.bps) L₁ out L'
  enough : amountOutMin ≤ out

@[simp] theorem wp_feeAmount {amount bps : Nat} {s : ChainState} {Q : Nat → ChainState → Prop}
    {E : RouterError → ChainState → Prop} : wp (lift (feeAmount amount bps)) s Q E ↔
      (amount * bps < 2 ^ 256 → Q (feeOf amount bps) s) ∧
        (¬ amount * bps < 2 ^ 256 → E (.panicked 0x11) s) := by
  unfold feeAmount checkedMul
  by_cases fits : amount * bps < 2 ^ 256
  · simp only [fits, true_imp_iff, not_true_eq_false, false_imp_iff, and_true]
    exact Iff.rfl
  · simp only [fits, not_false_eq_true, true_imp_iff, false_imp_iff, true_and]
    exact Iff.rfl

theorem ensures_skimAndDisburse {x : Ctx} {tokenOut : Address} {delivered : Nat} {fee : FrontendFee}
    {recipient : Address} {amountOutMin : Nat} {s : ChainState} :
    Ensures (skimAndDisburse x tokenOut delivered fee recipient amountOutMin) s
      (fun out s' => SkimmedAndDisbursed x tokenOut delivered fee recipient amountOutMin
          s.ledger s'.mark out s'.ledger ∧ s'.logs = s.logs ++ feeEvents x tokenOut
            (feeOf delivered fee.bps) fee) := by
  simp only [skimAndDisburse, Ensures, wp_bind, wp_feeAmount, wp_checkedSub, implies_true, and_true]
  intro _ covered
  apply ensures_skim.mono
  rintro _ s₁ ⟨skimmed, logs, _⟩
  simp only [wp_beginExecution]
  apply ensures_disburse.mono
  rintro out s₂ ⟨disbursed, silent⟩
  simp only [wp_require, wp_pure, implies_true, and_true]
  intro enough
  rw [silent.2]
  exact ⟨⟨covered, skimmed, disbursed, enough⟩, silent.1.trans logs⟩

/-! ## The four shapes -/

def swappedEvent (x : Ctx) (a : SwapArgs) (out : Nat) (executed : Address) : Event :=
  .swapped x.sender a.tokenIn a.tokenOut a.amountIn out a.recipient executed

/-- A fee form executes to the router itself, at the gross minimum. -/
def SwapArgs.gross (a : SwapArgs) (x : Ctx) (grossMin : Nat) : SwapArgs :=
  { a with amountOutMin := grossMin, recipient := x.self }

structure PlainRun (x : Ctx) (a : SwapArgs) (s : ChainState) (out : Nat) (s' : ChainState) :
    Prop where
  quoted : ∃ L₁, Quoted x s.ledger L₁ ∧ ∃ venue executed,
    CoreSwapped x venue a L₁ s'.mark out executed s'.ledger ∧
      s'.logs = s.logs ++ [swappedEvent x a out executed]

structure FeeRun (x : Ctx) (a : SwapArgs) (fee : FrontendFee) (s : ChainState) (out : Nat)
    (s' : ChainState) : Prop where
  quoted : ∃ L₁, Quoted x s.ledger L₁ ∧ ∃ grossMin, grossUp a.amountOutMin fee.bps = .ok grossMin ∧
    ∃ venue L₀ delivered executed L₂, CoreSwapped x venue (a.gross x grossMin) L₁ L₀ delivered
      executed L₂ ∧
      SkimmedAndDisbursed x a.tokenOut delivered fee a.recipient a.amountOutMin L₂ s'.mark
        out s'.ledger ∧
        s'.logs = s.logs ++ feeEvents x a.tokenOut (feeOf delivered fee.bps) fee ++
          [swappedEvent x a out executed]

/-- Pull, plan and execute, from `L` to `L'`. -/
structure SplitFilled (x : Ctx) (a : SwapArgs) (amountOutMin : Nat) (payTo : Address)
    (L L₀ : Ledger) (f : SplitFill) (L' : Ledger) : Prop where
  distinct : resolveToken a.tokenIn ≠ resolveToken a.tokenOut
  positive : 0 < a.amountIn
  bounded : a.amountIn ≤ maxU128
  run : ∃ s₁ s₂ legs, Pulled x a.tokenIn a.amountIn L s₁.ledger ∧
    planSplit x x.storage.getWhitelistedVenues (resolveToken a.tokenIn) (resolveToken a.tokenOut)
      a.amountIn s₁ = .ok legs s₂ ∧ s₂.ledger = L₀ ∧
    LegsExecuted x (legRunOf a amountOutMin payTo) legs L₀ f L'

structure SplitRun (x : Ctx) (a : SwapArgs) (s : ChainState) (out : Nat) (s' : ChainState) :
    Prop where
  filled : ∃ f : SplitFill, out = f.total ∧
    SplitFilled x a a.amountOutMin a.recipient s.ledger s'.mark f s'.ledger ∧
      s'.logs = s.logs ++ f.events x (legRunOf a a.amountOutMin a.recipient)

structure SplitFeeRun (x : Ctx) (a : SwapArgs) (fee : FrontendFee) (s : ChainState) (out : Nat)
    (s' : ChainState) : Prop where
  filled : ∃ grossMin, grossUp a.amountOutMin fee.bps = .ok grossMin ∧
    ∃ (f : SplitFill) (L₀ L₂ : Ledger),
    SplitFilled x a grossMin x.self s.ledger L₀ f L₂ ∧
      SkimmedAndDisbursed x a.tokenOut f.total fee a.recipient a.amountOutMin L₂ s'.mark
        out s'.ledger ∧
        s'.logs = s.logs ++ f.events x (legRunOf a grossMin x.self) ++
          feeEvents x a.tokenOut (feeOf f.total fee.bps) fee

namespace SwapCall

def fee? : SwapCall → Option FrontendFee
  | swapWithFeeV1 _ fee | swapViaVenueWithFeeV1 _ _ fee => some fee
  | swapViaSelectedVenuesWithFeeV1 _ _ fee | swapSplitWithFeeV1 _ fee => some fee
  | _ => none

def isSplit : SwapCall → Bool
  | swapSplitV1 _ | swapSplitWithFeeV1 _ _ => true
  | _ => false

end SwapCall

/-- A successful call, in the frame `x` of the entrypoint's body. -/
def Completed (x : Ctx) (call : SwapCall) (s : ChainState) (out : Nat) (s' : ChainState) : Prop :=
  match call.isSplit, call.fee? with
  | false, none => PlainRun x call.args s out s'
  | false, some fee => FeeRun x call.args fee s out s'
  | true, none => SplitRun x call.args s out s'
  | true, some fee => SplitFeeRun x call.args fee s out s'

section Shapes

variable {x : Ctx} {a : SwapArgs} {fee : FrontendFee} {venue : Address} {s s₁ : ChainState}

theorem ensures_executeSwap (quoted : QuotedFrame x s s₁) :
    Ensures (executeSwap x venue a) s₁ (fun r s' => PlainRun x a s r.1 s') := by
  simp only [executeSwap, Ensures, wp_bind]
  apply ensures_coreSwap.mono
  rintro r s₂ ⟨swapped, logs⟩
  refine ⟨s₁.ledger, quoted.1, venue, r.2, swapped, ?_⟩
  rw [ChainState.emitted_logs, logs, quoted.2.1]
  rfl

theorem ensures_executeSwapWithFee {grossMin : Nat}
    (gross : grossUp a.amountOutMin fee.bps = .ok grossMin) (quoted : QuotedFrame x s s₁) :
    Ensures (executeSwapWithFee x venue a grossMin fee) s₁
      (fun r s' => FeeRun x a fee s r.1 s') := by
  simp only [executeSwapWithFee, Ensures, wp_bind]
  apply ensures_coreSwap.mono
  rintro r s₂ ⟨swapped, logs⟩
  apply ensures_skimAndDisburse.mono
  rintro out s₃ ⟨disbursed, logs'⟩
  refine ⟨s₁.ledger, quoted.1, grossMin, gross, venue, s₂.mark, r.1, r.2, s₂.ledger, swapped,
    disbursed, ?_⟩
  rw [ChainState.emitted_logs, logs', logs, quoted.2.1]
  rfl

theorem ensures_planSplit {venueSet : List Address} {tokenIn_ tokenOut_ : Address}
    {amountIn : Nat} : Ensures (planSplit x venueSet tokenIn_ tokenOut_ amountIn) s (fun legs s' =>
      planSplit x venueSet tokenIn_ tokenOut_ amountIn s = .ok legs s' ∧ QuotedFrame x s s') :=
  ensures_iff.mpr fun _ _ run => ⟨run, (within_planSplit (quotedFrame x) _ _ _ _).ok run⟩

theorem ensures_splitSwap {amountOutMin : Nat} {payTo : Address} (positive : a.amountIn > 0)
    (bounded : a.amountIn ≤ maxU128) :
    Ensures (splitSwap x x.storage.getWhitelistedVenues a amountOutMin payTo) s (fun out s' =>
      ∃ f : SplitFill, out = f.total ∧ SplitFilled x a amountOutMin payTo s.ledger s'.mark
        f s'.ledger ∧
        s'.logs = s.logs ++ f.events x (legRunOf a amountOutMin payTo)) := by
  simp only [splitSwap, Ensures, wp_bind]
  apply ensures_pullSplitFunds.mono
  rintro p s₁ ⟨tokens, distinct, pulled, silent⟩
  subst tokens
  apply ensures_planSplit.mono
  rintro legs s₂ ⟨planned, quoted⟩
  apply ensures_executeLegs.mono
  rintro out s₃ ⟨f, total, executed, logs, mark⟩
  refine ⟨f, total, ⟨distinct, positive, bounded, s₁, s₂, legs, pulled, planned, mark.symm, ?_⟩, ?_⟩
  · rw [mark]
    exact executed
  · rw [logs, quoted.2.1, silent.1]
    rfl

end Shapes

theorem ensures_guarded {α : Type} {x : Ctx} {body : Ctx → RouterM α} {s : ChainState}
    {Q : α → ChainState → Prop} (h : Ensures (body x.enter) s Q) :
    Ensures (guarded x body) s Q := by
  simp only [guarded, Ensures, wp_bind, wp_require, implies_true, and_true]
  intro _ _
  exact h

theorem ensures_grossUp {n bps : Nat} {s : ChainState} {Q : Nat → ChainState → Prop}
    (h : ∀ grossMin, grossUp n bps = .ok grossMin → Q grossMin s) :
    Ensures (lift (grossUp n bps)) s Q := by
  cases gross : grossUp n bps with
  | ok grossMin => exact h grossMin gross
  | error e => trivial

theorem ensures_validateFee {fee : FrontendFee} {s : ChainState} {Q : PUnit → ChainState → Prop}
    (h : fee.bps ≤ maxFeeBps → fee.recipient ≠ 0 → Q ⟨⟩ s) : Ensures (validateFee fee) s Q := by
  simpa only [validateFee, Ensures, wp_bind, wp_require, implies_true, and_true] using h

theorem ensures_validateSplitParams {amountIn : Nat} {s : ChainState}
    {Q : PUnit → ChainState → Prop} (h : 0 < amountIn → amountIn ≤ maxU128 → Q ⟨⟩ s) :
    Ensures (validateSplitParams amountIn) s Q := by
  simpa only [validateSplitParams, Ensures, wp_bind, wp_require, implies_true, and_true] using h

theorem ensures_collectVenues {x : Ctx} {s : ChainState} {Q : List Address → ChainState → Prop}
    (h : Q x.storage.getWhitelistedVenues s) : Ensures (collectVenues x) s Q := by
  simp only [collectVenues, Ensures, wp_bind, wp_require, wp_pure, implies_true, and_true]
  intro _
  exact h

/-- Every successful call has the shape of its kind. -/
theorem ensures_run {x : Ctx} {call : SwapCall} {s : ChainState} :
    Ensures (call.run x) s (fun out s' => Completed x.enter call s out s') := by
  have start : QuotedFrame x.enter s s := Frame.refl s
  cases call with
  | swapV1 a =>
      rw [SwapCall.run, Ensures, wp_map]
      apply ensures_guarded
      simp only [Ensures, wp_bind]
      apply (within_pickBestPropAMM (quotedFrame x.enter) _ _ _).ensures.mono
      intro best s₁ quoted
      exact ensures_executeSwap quoted
  | swapWithFeeV1 a fee =>
      rw [SwapCall.run, Ensures, wp_map]
      apply ensures_guarded
      simp only [Ensures, wp_bind]
      apply ensures_validateFee
      intro _ _
      apply ensures_grossUp
      intro grossMin gross
      apply (within_pickBestPropAMM (quotedFrame x.enter) _ _ _).ensures.mono
      intro best s₁ quoted
      exact ensures_executeSwapWithFee gross quoted
  | swapViaVenueV1 venue a =>
      rw [SwapCall.run, Ensures, wp_map]
      apply ensures_guarded
      simp only [Ensures, wp_bind, wp_require, implies_true, and_true]
      intro _
      exact ensures_executeSwap start
  | swapViaVenueWithFeeV1 venue a fee =>
      rw [SwapCall.run]
      apply ensures_guarded
      simp only [Ensures, wp_bind, wp_require, implies_true, and_true, wp_pure]
      apply ensures_validateFee
      intro _ _ _
      apply ensures_grossUp
      intro grossMin gross
      exact ensures_executeSwapWithFee gross start
  | swapViaSelectedVenuesV1 venues a =>
      rw [SwapCall.run, Ensures, wp_map]
      apply ensures_guarded
      simp only [Ensures, wp_bind]
      apply (within_pickBestVenueFrom (quotedFrame x.enter) _ _ _ _).ensures.mono
      intro best s₁ quoted
      exact ensures_executeSwap quoted
  | swapViaSelectedVenuesWithFeeV1 venues a fee =>
      rw [SwapCall.run, Ensures, wp_map]
      apply ensures_guarded
      simp only [Ensures, wp_bind]
      apply ensures_validateFee
      intro _ _
      apply ensures_grossUp
      intro grossMin gross
      apply (within_pickBestVenueFrom (quotedFrame x.enter) _ _ _ _).ensures.mono
      intro best s₁ quoted
      exact ensures_executeSwapWithFee gross quoted
  | swapSplitV1 a =>
      rw [SwapCall.run]
      apply ensures_guarded
      simp only [Ensures, wp_bind, wp_require, implies_true, and_true]
      intro _
      apply ensures_validateSplitParams
      intro positive bounded
      apply ensures_collectVenues
      apply (ensures_splitSwap positive bounded).mono
      intro out s' filled
      exact ⟨filled⟩
  | swapSplitWithFeeV1 a fee =>
      rw [SwapCall.run]
      apply ensures_guarded
      simp only [Ensures, wp_bind, wp_require, implies_true, and_true]
      apply ensures_validateFee
      intro _ _ _
      apply ensures_validateSplitParams
      intro positive bounded
      apply ensures_collectVenues
      apply ensures_grossUp
      intro grossMin gross
      apply (ensures_splitSwap positive bounded).mono
      rintro out s₁ ⟨f, total, filled, logs⟩
      subst total
      apply ensures_skimAndDisburse.mono
      rintro out s₂ ⟨disbursed, logs'⟩
      exact ⟨grossMin, gross, f, s₁.mark, s₁.ledger, filled, disbursed, by rw [logs', logs]; rfl⟩

theorem completed_of_run {x : Ctx} {call : SwapCall} {s s' : ChainState} {out : Nat}
    (run : call.run x s = .ok out s') : Completed x.enter call s out s' :=
  wp_ok ensures_run run

end PropAMM
