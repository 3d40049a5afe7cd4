import Mathlib.Data.Nat.Basic
import PropAMM.Router.Slippage

/-! # Frontend fees are sound

The gross-up rounds up and the fee rounds down, so a delivery that meets the
gross minimum leaves a net that meets the caller's. With a token that pays
exactly, the skim and the disbursement therefore always succeed.
-/

namespace PropAMM

open Txn FrontendFees

/-! ## Rounding -/

/-- `ceilDiv` returns the least multiplier of the divisor that reaches the dividend. -/
theorem ceilDiv_ok (a : Nat) {b : Nat} (positive : 0 < b) :
    ∃ q, ceilDiv a b = .ok q ∧ ∀ d, q ≤ d ↔ a ≤ d * b := by
  refine ⟨_, if_neg (Nat.ne_of_gt positive), fun d => ?_⟩
  split
  · omega
  · rw [Nat.add_one_le_iff, Nat.div_lt_iff_lt_mul positive]
    omega

/-- `_grossUp` returns the least gross of which the exact, unrounded fee leaves `n`. -/
theorem grossUp_ok {n bps : Nat} (fits : n * bpsDenominator < 2 ^ 256) (capped : bps ≤ maxFeeBps) :
    ∃ grossMin, grossUp n bps = .ok grossMin ∧
      ∀ d, grossMin ≤ d ↔ n * bpsDenominator ≤ d * (bpsDenominator - bps) := by
  have room : bps < bpsDenominator := Nat.lt_of_le_of_lt capped (by decide)
  obtain ⟨grossMin, ceiled, least⟩ := ceilDiv_ok (n * bpsDenominator) (Nat.sub_pos_of_lt room)
  refine ⟨grossMin, ?_, least⟩
  simp only [grossUp, checkedMul_ok fits, checkedSub_ok room.le, ok_bind, ceiled]

/-- What `_grossUp` returned covers the net, whichever way it was called. -/
theorem grossUp_covers {n bps grossMin : Nat} (capped : bps ≤ maxFeeBps)
    (gross : grossUp n bps = .ok grossMin) :
    n * bpsDenominator ≤ grossMin * (bpsDenominator - bps) := by
  by_cases fits : n * bpsDenominator < 2 ^ 256
  · obtain ⟨g, ok, least⟩ := grossUp_ok fits capped
    cases ok.symm.trans gross
    exact (least grossMin).mp (Nat.le_refl grossMin)
  · simp only [grossUp, checkedMul, if_neg fits] at gross
    cases gross

theorem feeOf_le {d bps : Nat} (capped : bps ≤ maxFeeBps) : feeOf d bps ≤ d := by
  apply Nat.div_le_of_le_mul
  rw [Nat.mul_comm]
  exact Nat.mul_le_mul_right d (Nat.le_trans capped (by decide))

@[simp] theorem feeOf_zero (d : Nat) : feeOf d 0 = 0 := by simp [feeOf]

/-- A delivery that meets the gross minimum leaves a net that meets the caller's. -/
theorem le_net {n bps grossMin d : Nat} (capped : bps ≤ maxFeeBps)
    (gross : grossUp n bps = .ok grossMin) (enough : grossMin ≤ d) : n ≤ d - feeOf d bps := by
  have room : bps ≤ bpsDenominator := Nat.le_trans capped (by decide)
  have covers : n * bpsDenominator ≤ d * (bpsDenominator - bps) :=
    Nat.le_trans (grossUp_covers capped gross) (Nat.mul_le_mul_right _ enough)
  have floor : feeOf d bps * bpsDenominator ≤ d * bps := Nat.div_mul_le_self _ _
  have kept : n * bpsDenominator ≤ (d - feeOf d bps) * bpsDenominator := by
    calc n * bpsDenominator ≤ d * (bpsDenominator - bps) := covers
      _ = d * bpsDenominator - d * bps := Nat.mul_sub d _ _
      _ ≤ d * bpsDenominator - feeOf d bps * bpsDenominator := Nat.sub_le_sub_left floor _
      _ = (d - feeOf d bps) * bpsDenominator := (Nat.sub_mul d _ _).symm
  exact Nat.le_of_mul_le_mul_right kept (by decide)

/-! ## Exact payments -/

/-- The holding of `who` once `source` has paid `amount` to `target`. -/
def transferred (token source target : Address) (amount : Nat) (L : Ledger) (who : Address) : Nat :=
  (if who = source then holding token who L - amount else holding token who L) +
    if who = target then amount else 0

/-- The router paid `amount` to `target`, as its own and the payees' holdings show. -/
def PaidTo (x : Ctx) (token target : Address) (payees : List Address) (amount : Nat)
    (L L' : Ledger) : Prop :=
  ∀ who ∈ x.self :: payees, holding token who L' = transferred token x.self target amount L who

/-- What the router holds of `token` it can pay to any of `payees`, and that moves
    exactly the amount: a token that credits transfers exactly, or ETH that the
    payees accept and keep. -/
def PaysExactly (x : Ctx) (token : Address) (payees : List Address) : Prop :=
  ∀ target ∈ payees, ∀ (amount : Nat) (s : ChainState), amount ≤ holding token x.self s.ledger →
    ∃ ret L, Accepts x (paymentCall token target amount) s ret L ∧
      PaidTo x token target payees amount s.ledger L

/-- `delivered` is shared out between the fee recipient and the recipient. -/
structure PaidOut (x : Ctx) (token : Address) (fee : FrontendFee) (recipient : Address)
    (delivered : Nat) (L L' : Ledger) : Prop where
  router : holding token x.self L' + delivered = holding token x.self L
  feePayee : fee.recipient ≠ recipient →
    holding token fee.recipient L' = holding token fee.recipient L + feeOf delivered fee.bps
  netPayee : fee.recipient ≠ recipient →
    holding token recipient L' = holding token recipient L + (delivered - feeOf delivered fee.bps)
  together : fee.recipient = recipient → holding token recipient L' = holding token recipient L +
    delivered

section Payments

variable {x : Ctx} {token target recipient : Address} {payees : List Address} {fee : FrontendFee}
  {amount delivered : Nat} {s : ChainState}

theorem returns_sendETH {ret : List Word} {L : Ledger} {Q : PUnit → ChainState → Prop}
    (accepted : Accepts x (.sendValue target amount) s ret L)
    (h : Q ⟨⟩ (s.called (.sendValue target amount) L)) : Returns (sendETH x target amount) s Q := by
  simp only [sendETH, callValue, Returns, wp_bind]
  rw [wp_attempt]
  apply wp_of_accepts accepted
  simpa using h

theorem paidTo_zero (L : Ledger) : PaidTo x token target payees 0 L L := by
  intro who _
  simp [transferred]

theorem returns_skim (pays : PaysExactly x token payees) (payee : fee.recipient ∈ payees)
    (held : amount ≤ holding token x.self s.ledger) :
    Returns (skim x token amount fee) s (fun _ s' =>
      PaidTo x token fee.recipient payees amount s.ledger s'.ledger ∧
        s'.logs = s.logs ++ feeEvents x token amount fee) := by
  unfold skim feeEvents
  by_cases none : amount = 0
  · simp only [none, gt_iff_lt, lt_irrefl, if_false, if_true]
    exact ⟨paidTo_zero s.ledger, by simp⟩
  · simp only [if_neg none, if_pos (Nat.pos_of_ne_zero none)]
    obtain ⟨ret, L, accepted, moved⟩ := pays _ payee amount s held
    by_cases eth : token = ethSentinel
    · rw [paymentCall, if_pos eth] at accepted
      simp only [if_pos eth, Returns, wp_bind]
      exact returns_sendETH accepted ⟨moved, rfl⟩
    · rw [paymentCall, if_neg eth] at accepted
      simp only [if_neg eth, Returns, wp_bind]
      exact wp_of_accepts accepted ⟨moved, rfl⟩

theorem returns_disburse (pays : PaysExactly x token payees) (payee : recipient ∈ payees)
    (away : recipient ≠ x.self) (held : amount ≤ holding token x.self s.ledger) :
    Returns (disburse x token amount recipient) s (fun out s' => out = amount ∧
      PaidTo x token recipient payees amount s.ledger s'.ledger ∧ s'.logs = s.logs) := by
  obtain ⟨ret, L, accepted, moved⟩ := pays _ payee amount s held
  unfold disburse
  by_cases eth : token = ethSentinel
  · rw [if_pos eth]
    by_cases nonzero : amount > 0
    · rw [paymentCall, if_pos eth] at accepted
      simp only [if_pos nonzero, Returns, wp_bind]
      exact returns_sendETH accepted ⟨rfl, moved, rfl⟩
    · have none : amount = 0 := by omega
      simp only [if_neg nonzero, Returns]
      exact ⟨rfl, none ▸ paidTo_zero s.ledger, rfl⟩
  · rw [if_neg eth]
    by_cases nonzero : amount > 0
    · rw [paymentCall, if_neg eth] at accepted
      simp only [if_pos nonzero, Returns, wp_bind, wp_balanceOf]
      apply wp_of_accepts accepted
      -- The measured increase is the amount sent.
      have credited := moved recipient (List.mem_cons_of_mem _ payee)
      rw [transferred, if_neg away, if_pos rfl, holding_token eth, holding_token eth] at credited
      simp only [wp_checkedSub, ChainState.called_ledger, credited]
      exact ⟨fun _ => ⟨Nat.add_sub_cancel_left .., moved, rfl⟩,
        fun short => short (Nat.le_add_right ..)⟩
    · have none : amount = 0 := by omega
      subst none
      simp only [if_neg nonzero, Returns, wp_bind, wp_balanceOf, wp_checkedSub, le_refl,
        true_imp_iff, not_true_eq_false, false_imp_iff, and_true]
      exact ⟨Nat.sub_self _, paidTo_zero s.ledger⟩

/-- Two payments out of one delivery. -/
theorem paidOut_of_paidTo {L L₁ L₂ : Ledger} (feeAway : fee.recipient ≠ x.self)
    (away : recipient ≠ x.self) (capped : fee.bps ≤ maxFeeBps)
    (held : delivered ≤ holding token x.self L)
    (skimmed : PaidTo x token fee.recipient [fee.recipient, recipient]
      (feeOf delivered fee.bps) L L₁)
    (disbursed : PaidTo x token recipient
      [fee.recipient, recipient] (delivered - feeOf delivered fee.bps) L₁ L₂) : PaidOut x token fee
        recipient delivered L L₂ := by
  have part := feeOf_le (d := delivered) capped
  have routerPays := skimmed x.self (by simp)
  have routerPaysOn := disbursed x.self (by simp)
  have feePaid := skimmed fee.recipient (by simp)
  have feeKept := disbursed fee.recipient (by simp)
  have kept := skimmed recipient (by simp)
  have paid := disbursed recipient (by simp)
  simp only [transferred, if_true, if_neg feeAway, if_neg away, if_neg feeAway.symm,
    if_neg away.symm] at *
  refine ⟨by omega, fun apart => ?_, fun apart => ?_, fun same => ?_⟩
  · rw [if_neg apart] at feeKept
    omega
  · rw [if_neg apart.symm] at kept
    omega
  · rw [if_pos same.symm] at kept
    omega

/-- `_skimAndDisburse` of a delivery that meets the gross minimum. -/
theorem returns_skimAndDisburse {n grossMin : Nat}
    (pays : PaysExactly x token [fee.recipient, recipient]) (capped : fee.bps ≤ maxFeeBps)
    (feeAway : fee.recipient ≠ x.self) (away : recipient ≠ x.self)
    (gross : grossUp n fee.bps = .ok grossMin) (enough : grossMin ≤ delivered)
    (fits : delivered * fee.bps < 2 ^ 256) (held : delivered ≤ holding token x.self s.ledger) :
    Returns (skimAndDisburse x token delivered fee recipient n) s (fun out s' =>
      out = delivered - feeOf delivered fee.bps ∧
        PaidOut x token fee recipient delivered s.ledger s'.ledger ∧
        s'.logs = s.logs ++ feeEvents x token (feeOf delivered fee.bps) fee) := by
  have part := feeOf_le (d := delivered) capped
  simp only [skimAndDisburse, Returns, wp_bind, wp_feeAmount, wp_checkedSub, fits, part,
    true_imp_iff, not_true_eq_false, false_imp_iff, and_true]
  refine wp_mono (returns_skim pays (by simp) (Nat.le_trans part held)) ?_ (fun _ _ h => h)
  rintro _ s₁ ⟨skimmed, logs⟩
  rw [wp_beginExecution]
  have left := skimmed x.self (by simp)
  rw [transferred, if_pos rfl, if_neg feeAway.symm] at left
  refine wp_mono (returns_disburse (s := { s₁ with mark := s₁.ledger }) pays (by simp) away (by
    show _ ≤ holding token x.self s₁.ledger
    omega)) ?_ (fun _ _ h => h)
  rintro out s₂ ⟨exact_net, disbursed, silent⟩
  subst exact_net
  simp only [wp_require, wp_pure, ge_iff_le, le_net capped gross enough, true_imp_iff,
    not_true_eq_false, false_imp_iff, and_true]
  exact ⟨trivial, paidOut_of_paidTo feeAway away capped held skimmed disbursed, silent.trans logs⟩

end Payments

/-! ## The fee entrypoints

Each is an execution to the router itself at the gross minimum, followed by the
skim. Only the split has logged its fills by then.
-/

/-- A fee form up to the skim: what was delivered to the router, and by whom.
    The other forms have no skim, and this is all of them. -/
def SwapCall.executeGross (x : Ctx) : SwapCall → RouterM (Nat × Address)
  | swapWithFeeV1 a fee => guarded x fun x => do
    validateFee fee
    let grossMin ← lift (grossUp a.amountOutMin fee.bps)
    let best ← pickBestPropAMM x a.tokenIn a.tokenOut a.amountIn
    coreSwap x (orFallback x best grossMin) (a.gross x grossMin)
  | swapViaVenueWithFeeV1 venue a fee => guarded x fun x => do
    validateFee fee
    require (x.storage.isVenue venue) .unknownVenue
    let grossMin ← lift (grossUp a.amountOutMin fee.bps)
    coreSwap x venue (a.gross x grossMin)
  | swapViaSelectedVenuesWithFeeV1 venues a fee => guarded x fun x => do
    validateFee fee
    let grossMin ← lift (grossUp a.amountOutMin fee.bps)
    let best ← pickBestVenueFrom x venues a.tokenIn a.tokenOut a.amountIn
    coreSwap x (orFallback x best grossMin) (a.gross x grossMin)
  | swapSplitWithFeeV1 a fee => guarded x fun x => do
    validateFee fee
    require (x.timestamp ≤ a.deadline) .expired
    validateSplitParams a.amountIn
    let venueSet ← collectVenues x
    let grossMin ← lift (grossUp a.amountOutMin fee.bps)
    let deliveredGross ← splitSwap x venueSet a grossMin x.self
    return (deliveredGross, x.self)
  | call => (·, x.self) <$> call.run x

/-- A fee form from the skim on, in the frame of its body. -/
def SwapCall.payOut (x : Ctx) (call : SwapCall) (fee : FrontendFee) (gross : Nat × Address) :
    RouterM Nat := do
  let amountOut ← skimAndDisburse x call.args.tokenOut gross.1 fee call.args.recipient
    call.args.amountOutMin
  if call.isSplit = false then
    emitSwapped x gross.2 call.args.tokenIn call.args.tokenOut call.args.amountIn amountOut
      call.args.recipient
  return amountOut

/-- A fee form is its execution and then its skim. -/
theorem run_eq_payOut {x : Ctx} {call : SwapCall} {fee : FrontendFee}
    (charged : call.fee? = some fee) :
    call.run x = call.executeGross x >>= call.payOut x.enter fee := by
  cases call with
  | swapWithFeeV1 a fee' =>
      cases charged
      simp only [SwapCall.run, swapWithFeeV1, SwapCall.executeGross, executeSwapWithFee,
        guarded, map_bind, map_pure, bind_assoc]
      rfl
  | swapViaVenueWithFeeV1 venue a fee' =>
      cases charged
      simp only [SwapCall.run, swapViaVenueWithFeeV1, SwapCall.executeGross,
        executeSwapWithFee, guarded, pure_bind, bind_assoc]
      rfl
  | swapViaSelectedVenuesWithFeeV1 venues a fee' =>
      cases charged
      simp only [SwapCall.run, swapViaSelectedVenuesWithFeeV1, SwapCall.executeGross,
        executeSwapWithFee, guarded, map_bind, map_pure, bind_assoc]
      rfl
  | swapSplitWithFeeV1 a fee' =>
      cases charged
      simp only [SwapCall.run, swapSplitWithFeeV1, SwapCall.executeGross, SwapCall.payOut, guarded,
        pure_bind, bind_assoc, SwapCall.isSplit, SwapCall.args, bind_pure, reduceCtorEq, if_false]
  | swapV1 | swapViaVenueV1 | swapViaSelectedVenuesV1 | swapSplitV1 => cases charged

/-- A form without a fee is its execution. -/
theorem executeGross_of_plain {x : Ctx} {call : SwapCall} (plain : call.fee? = none) :
    call.executeGross x = (·, x.self) <$> call.run x := by
  cases call with
  | swapV1 | swapViaVenueV1 | swapViaSelectedVenuesV1 | swapSplitV1 => rfl
  | swapWithFeeV1 | swapViaVenueWithFeeV1 | swapViaSelectedVenuesWithFeeV1 | swapSplitWithFeeV1 =>
      cases plain

/-- What a fee form's execution leaves for the skim: a valid fee, and a delivery that
    meets the gross minimum and lies on the router. -/
structure GrossDelivered (x : Ctx) (call : SwapCall) (fee : FrontendFee) (delivered : Nat)
    (L : Ledger) : Prop where
  capped : fee.bps ≤ maxFeeBps
  payable : fee.recipient ≠ 0
  gross : ∃ grossMin, grossUp call.args.amountOutMin fee.bps = .ok grossMin ∧ grossMin ≤ delivered
  held : (call.args.tokenOut = ethSentinel → KeepsETH (· ≤ ·) x x.self) →
    delivered ≤ holding call.args.tokenOut x.self L

section Gross

variable {x : Ctx} {a : SwapArgs} {fee : FrontendFee} {grossMin : Nat} {s : ChainState}

/-- Executed to the router itself, a swap leaves what it measured there. -/
theorem ensures_coreSwap_gross {venue : Address} :
    Ensures (coreSwap x venue (a.gross x grossMin)) s (fun r s' => grossMin ≤ r.1 ∧
      ((a.tokenOut = ethSentinel → KeepsETH (· ≤ ·) x x.self) →
        r.1 ≤ holding a.tokenOut x.self s'.ledger)) := by
  apply ensures_coreSwap.mono
  rintro r s' ⟨swapped, _⟩
  constructor
  · exact (swapped.run.received Drift.any (fun _ _ _ _ _ _ _ => trivial)).1
  · intro kept
    have received := (swapped.run.received Drift.le kept).2
    exact Nat.le_trans (Nat.le_add_left ..) received

theorem ensures_splitSwap_gross (positive : a.amountIn > 0) (bounded : a.amountIn ≤ maxU128) :
    Ensures (splitSwap x x.storage.getWhitelistedVenues a grossMin x.self) s
      (fun out s' => grossMin ≤ out ∧
      ((a.tokenOut = ethSentinel → KeepsETH (· ≤ ·) x x.self) →
        out ≤ holding a.tokenOut x.self s'.ledger)) := by
  apply (ensures_splitSwap positive bounded).mono
  rintro out s' ⟨f, total, filled, _⟩
  obtain ⟨_, _, _, _, _, _, executed⟩ := filled.run
  subst total
  constructor
  · exact (executed.received Drift.any (fun _ _ _ _ _ _ _ => trivial)).1
  · intro kept
    have received := (executed.received Drift.le kept).2
    exact Nat.le_trans (Nat.le_add_left ..) received

theorem ensures_executeGross {call : SwapCall} (charged : call.fee? = some fee) :
    Ensures (call.executeGross x) s (fun r s' => GrossDelivered x call fee r.1 s'.ledger) := by
  cases call with
  | swapWithFeeV1 a fee' =>
      cases charged
      rw [SwapCall.executeGross]
      apply ensures_guarded
      simp only [Ensures, wp_bind]
      apply ensures_validateFee
      intro capped payable
      apply ensures_grossUp
      intro grossMin gross
      apply (within_pickBestPropAMM (quotedFrame x.enter) _ _ _).ensures.mono
      intro best s₁ _
      apply ensures_coreSwap_gross.mono
      rintro r s' ⟨enough, held⟩
      exact ⟨capped, payable, ⟨grossMin, gross, enough⟩, held⟩
  | swapViaVenueWithFeeV1 venue a fee' =>
      cases charged
      rw [SwapCall.executeGross]
      apply ensures_guarded
      simp only [Ensures, wp_bind, wp_require, implies_true, and_true]
      apply ensures_validateFee
      intro capped payable _
      apply ensures_grossUp
      intro grossMin gross
      apply ensures_coreSwap_gross.mono
      rintro r s' ⟨enough, held⟩
      exact ⟨capped, payable, ⟨grossMin, gross, enough⟩, held⟩
  | swapViaSelectedVenuesWithFeeV1 venues a fee' =>
      cases charged
      rw [SwapCall.executeGross]
      apply ensures_guarded
      simp only [Ensures, wp_bind]
      apply ensures_validateFee
      intro capped payable
      apply ensures_grossUp
      intro grossMin gross
      apply (within_pickBestVenueFrom (quotedFrame x.enter) _ _ _ _).ensures.mono
      intro best s₁ _
      apply ensures_coreSwap_gross.mono
      rintro r s' ⟨enough, held⟩
      exact ⟨capped, payable, ⟨grossMin, gross, enough⟩, held⟩
  | swapSplitWithFeeV1 a fee' =>
      cases charged
      rw [SwapCall.executeGross]
      apply ensures_guarded
      simp only [Ensures, wp_bind, wp_require, implies_true, and_true]
      apply ensures_validateFee
      intro capped payable _
      apply ensures_validateSplitParams
      intro positive bounded
      apply ensures_collectVenues
      apply ensures_grossUp
      intro grossMin gross
      apply (ensures_splitSwap_gross positive bounded).mono
      rintro out s' ⟨enough, held⟩
      exact ⟨capped, payable, ⟨grossMin, gross, enough⟩, held⟩
  | swapV1 | swapViaVenueV1 | swapViaSelectedVenuesV1 | swapSplitV1 => cases charged

end Gross

/-- Without a fee none is logged. -/
theorem Completed.no_fee {x : Ctx} {call : SwapCall} {fee : FrontendFee} {s s' : ChainState}
    {out : Nat} (charged : call.fee? = some fee) (free : fee.bps = 0)
    (h : Completed x call s out s') :
    ∃ events, s'.logs = s.logs ++ events ∧
      ∀ feeRecipient tokenOut feeAmt payer, .frontendFeeCharged feeRecipient tokenOut feeAmt
        payer ∉ events := by
  unfold Completed at h
  rw [charged] at h
  have none : ∀ token d, feeEvents x token (feeOf d fee.bps) fee = [] := by
    intro token d
    rw [free, feeOf_zero]
    rfl
  cases split : call.isSplit with
  | false =>
      rw [split] at h
      obtain ⟨_, _, _, _, _, _, _, executed, _, _, _, logs⟩ := h.quoted
      rw [none, List.append_nil] at logs
      exact ⟨_, logs, fun _ _ _ _ => by simp [swappedEvent]⟩
  | true =>
      rw [split] at h
      obtain ⟨_, _, f, _, _, _, _, logs⟩ := h.filled
      rw [none, List.append_nil] at logs
      refine ⟨_, logs, fun _ _ _ _ member => ?_⟩
      simp only [SplitFill.events, List.mem_append, List.mem_map] at member
      rcases member with ⟨_, _, same⟩ | last
      · cases same
      · split at last
        · cases last
        · cases List.mem_singleton.mp last

/-- The mocks' tokens without a transfer fee pay exactly, and their ETH stays where it is sent. -/
theorem Mocks.paysExactly (m : Mocks) (whitelist : EnumerableSet Address) (sender : Address)
    (value : Nat) {token : Address} {payees : List Address} (plain : m.transferFeeBps token = 0)
    (foreign : token ≠ m.router) (away : ∀ target ∈ payees, target ≠ m.router ∧ target ≠ weth) :
    PaysExactly (m.ctx whitelist sender value) token payees := by
  intro target payee amount s held
  obtain ⟨notRouter, notWeth⟩ := away target payee
  by_cases eth : token = ethSentinel
  · subst eth
    rw [holding_sentinel] at held
    refine ⟨[], s.ledger.pay m.router target amount, ⟨notRouter, held, ?_⟩, fun who _ => rfl⟩
    rw [paymentCall, if_pos rfl]
    show some ([], if target = weth then _ else _) = _
    rw [if_neg notWeth]
    rfl
  · rw [holding_token eth] at held
    refine ⟨[], ((s.ledger.move token m.router target amount).credit token 0xdead 0),
      ⟨?_, ?_, ?_⟩, ?_⟩
    · rw [paymentCall, if_neg eth]
      exact foreign
    · rw [paymentCall, if_neg eth]
      exact Nat.zero_le _
    · rw [paymentCall, if_neg eth]
      show Option.map _ (m.transfer token m.router target amount _) = _
      have covered : ¬ s.ledger.balance token m.router < amount := Nat.not_lt.mpr held
      simp only [Mocks.transfer, ExtCall.value, Ledger.pay_zero, if_neg covered, plain,
        Nat.mul_zero, Nat.zero_div, Nat.sub_zero]
      rfl
    · intro who _
      simp only [transferred, holding_token eth, Ledger.credit, Nat.add_zero, ite_self,
        Ledger.move_balance, if_true]
      rfl

theorem KeepsETH.le {x : Ctx} {who : Address} (K : KeepsETH Eq x who) : KeepsETH (· ≤ ·) x who :=
  fun history c L ret L' answer => (K history c L ret L' answer).le

/-- Entering the body changes neither who pays nor whom. -/
theorem PaysExactly.enter {x : Ctx} {token : Address} {payees : List Address}
    (pays : PaysExactly x token payees) : PaysExactly x.enter token payees := by
  intro target payee amount s held
  obtain ⟨ret, L, accepted, moved⟩ := pays target payee amount s held
  exact ⟨ret, L, accepts_enter.mpr accepted, moved⟩

theorem PaidOut.of_enter {x : Ctx} {token recipient : Address} {fee : FrontendFee} {delivered : Nat}
    {L L' : Ledger} (h : PaidOut x.enter token fee recipient delivered L L') :
    PaidOut x token fee recipient delivered L L' :=
  ⟨h.router, h.feePayee, h.netPayee, h.together⟩

/-- Frontend fees are sound. `_skimAndDisburse` of a delivery that meets the gross
    minimum pays both parties and meets the net one; and in every fee form, whatever
    was executed is then paid out, without the net check firing. -/
theorem frontend_fee_sound {x : Ctx} {token recipient : Address} (fee : FrontendFee)
    (capped : fee.bps ≤ maxFeeBps) (feeAway : fee.recipient ≠ x.self) (away : recipient ≠ x.self)
    (pays : PaysExactly x token [fee.recipient, recipient]) :
    (∀ (n d : Nat) (s : ChainState), n * 10000 < 2 ^ 256 → d * fee.bps < 2 ^ 256 →
      d ≤ holding token x.self s.ledger →
      ∃ grossMin, grossUp n fee.bps = .ok grossMin ∧ (grossMin ≤ d →
        ∃ s', skimAndDisburse x token d fee recipient n s = .ok (d - feeOf d fee.bps) s' ∧
          n ≤ d - feeOf d fee.bps ∧ PaidOut x token fee recipient d s.ledger s'.ledger)) ∧
    ∀ (call : SwapCall) (s s₁ : ChainState) (d : Nat) (executed : Address), call.fee? = some fee →
      call.args.tokenOut = token → call.args.recipient = recipient →
      (token = ethSentinel → KeepsETH (· ≤ ·) x x.self) →
      call.executeGross x s = .ok (d, executed) s₁ → d * fee.bps < 2 ^ 256 →
      ∃ s', call.run x s = .ok (d - feeOf d fee.bps) s' ∧
        PaidOut x token fee recipient d s₁.ledger s'.ledger ∧
        (fee.bps = 0 → d - feeOf d fee.bps = d ∧ ∃ events, s'.logs = s.logs ++ events ∧
          ∀ feeRecipient tokenOut feeAmt payer,
            .frontendFeeCharged feeRecipient tokenOut feeAmt payer ∉ events) := by
  constructor
  · intro n d s scaled fits held
    obtain ⟨grossMin, gross, _⟩ := grossUp_ok scaled capped
    refine ⟨grossMin, gross, fun enough => ?_⟩
    obtain ⟨out, s', run, net, paidOut, _⟩ :=
      (returns_skimAndDisburse pays capped feeAway away gross enough fits held).exists
    subst net
    exact ⟨s', run, le_net capped gross enough, paidOut⟩
  · intro call s s₁ d executed charged tokenIs recipientIs kept execution fits
    subst tokenIs recipientIs
    obtain ⟨_, _, ⟨grossMin, gross, enough⟩, held⟩ := wp_ok (ensures_executeGross charged) execution
    have skim : Returns (call.payOut x.enter fee (d, executed)) s₁ (fun out s' =>
        out = d - feeOf d fee.bps ∧ PaidOut x call.args.tokenOut fee call.args.recipient d s₁.ledger
          s'.ledger) := by
      simp only [SwapCall.payOut, Returns, wp_bind]
      refine wp_mono (returns_skimAndDisburse pays.enter capped feeAway away gross enough fits
        (held kept)) ?_ (fun _ _ h => h)
      rintro out s' ⟨net, paidOut, _⟩
      simp only [wp_ite, emitSwapped, wp_pure]
      exact ⟨fun _ => ⟨net, paidOut.of_enter⟩, fun _ => ⟨net, paidOut.of_enter⟩⟩
    obtain ⟨out, s', run, net, paidOut⟩ := skim.exists
    subst net
    have whole : call.run x s = .ok (d - feeOf d fee.bps) s' := by
      rw [run_eq_payOut charged]
      show EStateM.bind _ _ s = _
      rw [EStateM.bind, execution]
      exact run
    refine ⟨s', whole, paidOut, fun free => ⟨by rw [free, feeOf_zero, Nat.sub_zero], ?_⟩⟩
    exact (completed_of_run whole).no_fee charged free

/-- One per cent of a split into a token, and of a free swap into ETH. -/
theorem frontend_fee_sound_sample :
    (∃ s₁ s', (SwapCall.swapSplitWithFeeV1 ⟨0x11, 0x22, 100, 90, 0xBE, 10⟩ ⟨100, 0xFE⟩).executeGross
        sampleCtx (.start (.funded 1000)) = .ok (194, 0x50) s₁ ∧
      (SwapCall.swapSplitWithFeeV1 ⟨0x11, 0x22, 100, 90, 0xBE, 10⟩ ⟨100, 0xFE⟩).run sampleCtx
        (.start (.funded 1000)) = .ok 193 s' ∧
      PaidOut sampleCtx 0x22 ⟨100, 0xFE⟩ 0xBE 194 s₁.ledger s'.ledger) ∧
    ∃ s₁ s', (SwapCall.swapWithFeeV1 ⟨0x11, ethSentinel, 100, 90, 0xBE, 10⟩ ⟨0, 0xFE⟩).executeGross
      sampleCtx (.start (.funded 1000)) = .ok (200, 0xA1) s₁ ∧
      (SwapCall.swapWithFeeV1 ⟨0x11, ethSentinel, 100, 90, 0xBE, 10⟩ ⟨0, 0xFE⟩).run sampleCtx
        (.start (.funded 1000)) = .ok 200 s' ∧
      PaidOut sampleCtx ethSentinel ⟨0, 0xFE⟩ 0xBE 200 s₁.ledger s'.ledger := by
  have payees : ∀ target ∈ [(0xFE : Address), 0xBE], target ≠ sampleMocks.router ∧
      target ≠ weth := by
    intro target payee
    rcases List.mem_pair.mp payee with rfl | rfl <;> decide
  constructor
  · obtain ⟨s₁, execution⟩ := exists_ok (a := (194, 0x50)) (s := .start (.funded 1000))
      (m := (SwapCall.swapSplitWithFeeV1 ⟨0x11, 0x22, 100, 90, 0xBE, 10⟩ ⟨100, 0xFE⟩).executeGross
        sampleCtx)
      (by decide +kernel)
    have pays : PaysExactly sampleCtx 0x22 [0xFE, 0xBE] :=
      sampleMocks.paysExactly _ _ _ rfl (by decide) payees
    obtain ⟨s', run, paidOut, _⟩ :=
      (frontend_fee_sound ⟨100, 0xFE⟩ (by decide) (by decide) (by decide) pays).2 _ _ _ _
        _ rfl rfl rfl (fun eth => absurd eth (by decide)) execution (by decide)
    exact ⟨s₁, s', execution, run, paidOut⟩
  · obtain ⟨s₁, execution⟩ := exists_ok (a := (200, 0xA1)) (s := .start (.funded 1000))
      (m := (SwapCall.swapWithFeeV1 ⟨0x11, ethSentinel, 100, 90, 0xBE, 10⟩ ⟨0, 0xFE⟩).executeGross
        sampleCtx)
      (by decide +kernel)
    have pays : PaysExactly sampleCtx ethSentinel [0xFE, 0xBE] :=
      sampleMocks.paysExactly _ _ _ rfl (by decide) payees
    obtain ⟨s', run, paidOut, _⟩ :=
      (frontend_fee_sound ⟨0, 0xFE⟩ (by decide) (by decide) (by decide) pays).2 _ _ _ _
        _ rfl rfl rfl (fun _ => (sampleMocks.keepsETH _ _ _ (by decide)).le) execution (by decide)
    exact ⟨s₁, s', execution, run, paidOut⟩

end PropAMM
