import PropAMM.Router.FeeSoundness

/-! # The boundary of the gross minimum

The fee is rounded down in the caller's favour and the gross minimum up, as if the
fee were exact. Deliveries whose rounded fee leaves just the net minimum are then
rejected by the fee forms.
-/

namespace PropAMM

open Txn FrontendFees

/-- The rounded fee on `d` leaves exactly `n`, and the exact fee would leave less. -/
def AtBoundary (n bps d : Nat) : Prop :=
  d * bps % bpsDenominator ≠ 0 ∧ d = n + d * bps / bpsDenominator

theorem feeAmount_ok {d bps : Nat} (fits : d * bps < 2 ^ 256) :
    feeAmount d bps = .ok (feeOf d bps) := by
  simp only [feeAmount, checkedMul_ok fits, ok_bind]
  exact checkedDiv_ok (by decide)

/-- The net of a delivery is the exact one plus what the rounding forgave. -/
theorem net_mul {d bps : Nat} (capped : bps ≤ maxFeeBps) :
    (d - feeOf d bps) * bpsDenominator = d * (bpsDenominator - bps) + d * bps % bpsDenominator := by
  have room : bps ≤ bpsDenominator := Nat.le_trans capped (by decide)
  have part : d * bps ≤ d * bpsDenominator := Nat.mul_le_mul_left d room
  have split : bpsDenominator * feeOf d bps + d * bps % bpsDenominator = d * bps :=
    Nat.div_add_mod _ _
  rw [Nat.sub_mul, Nat.mul_sub, Nat.mul_comm (feeOf d bps)]
  omega

/-- A sufficient net comes with a sufficient gross, except at the boundary. -/
theorem net_imp_gross_iff {n bps d : Nat} (capped : bps ≤ maxFeeBps) :
    (n ≤ d - feeOf d bps → n * bpsDenominator ≤ d * (bpsDenominator - bps)) ↔
    ¬ AtBoundary n bps d := by
  have net := net_mul (d := d) capped
  have part := feeOf_le (d := d) capped
  have rest : d * bps % bpsDenominator < bpsDenominator := Nat.mod_lt _ (by decide)
  have scale : 0 < bpsDenominator := by decide
  constructor
  · rintro meets ⟨inexact, exactly⟩
    have left : d - feeOf d bps = n := Nat.sub_eq_of_eq_add exactly
    have enough := meets (Nat.le_of_eq left.symm)
    rw [left] at net
    omega
  · intro inside enough
    by_contra short
    apply inside
    -- One unit more of net would cover what the rounding forgave.
    have least : d - feeOf d bps < n + 1 := by
      apply Nat.lt_of_mul_lt_mul_right (a := bpsDenominator)
      rw [net, Nat.add_mul]
      omega
    have left : d - feeOf d bps = n := by omega
    refine ⟨?_, (Nat.sub_eq_iff_eq_add part).mp left⟩
    intro exact_fee
    rw [left, exact_fee] at net
    omega

/-! ## Rejected executions -/

/-- It reverts with `InsufficientOutput`. -/
def Rejects {α : Type} (m : RouterM α) (s : ChainState) : Prop :=
  ∃ expected received s', m s = .error (.insufficientOutput expected received) s'

def RouterError.IsShort (e : RouterError) : Prop :=
  ∃ expected received, e = .insufficientOutput expected received

theorem rejects_iff {α : Type} {m : RouterM α} {s : ChainState} {short : Prop}
    (h : wp m s (fun _ _ => ¬ short) (fun e _ => e.IsShort ↔ short)) : Rejects m s ↔ short := by
  constructor
  · rintro ⟨expected, received, s', run⟩
    have named := wp_error (E := fun e _ => e.IsShort ↔ short) h run
    exact named.mp ⟨expected, received, rfl⟩
  · intro falls
    cases run : m s with
    | ok a s' => exact absurd falls (wp_ok (Q := fun _ _ => ¬ short) h run)
    | error e s' =>
        have named := wp_error (E := fun e _ => e.IsShort ↔ short) h run
        obtain ⟨expected, received, rfl⟩ := named.mpr falls
        exact ⟨expected, received, s', run⟩

/-- What is left to do once the output is enough does not fall short. -/
theorem wp_forwardETH_enough {x : Ctx} {tokenOut target : Address} {amount : Nat} {s : ChainState}
    {short : Prop} (enough : ¬ short) :
    wp (forwardETH x tokenOut target amount) s (fun _ _ => ¬ short)
      (fun e _ => e.IsShort ↔ short) := by
  have others : Raises (fun e => ¬ e.IsShort) (forwardETH x tokenOut target amount) := by
    apply excused_forwardETH
    · rintro ⟨expected, received, same⟩
      cases same
    · rintro _ ⟨expected, received, same⟩
      cases same
  apply wp_mono (others s)
  · exact fun _ _ _ => enough
  · exact fun _ _ other => ⟨fun named => absurd named other, fun falls => absurd falls enough⟩

/-- The check of the minimum and what comes after it. -/
theorem wp_minimum {x : Ctx} {tokenOut target : Address} {amount out least expected received : Nat}
    {s : ChainState} :
    (out ≥ least → wp (forwardETH x tokenOut target amount) s (fun _ _ => ¬ out < least)
      (fun e _ => e.IsShort ↔ out < least)) ∧
    (¬ out ≥ least →
      ((RouterError.insufficientOutput expected received).IsShort ↔ out < least)) := by
  constructor
  · exact fun enough => wp_forwardETH_enough (Nat.not_lt.mpr enough)
  · exact fun low => ⟨fun _ => Nat.lt_of_not_ge low, fun _ => ⟨_, _, rfl⟩⟩

/-- From `s` the pull, where there is one, and Uniswap's swap are accepted, and `recipient_`
    ends up with `out` more. -/
structure FallbackExecutes (x : Ctx) (a : SwapArgs) (tokenIn_ tokenOut_ recipient_ : Address)
    (out : Nat) (s : ChainState) : Prop where
  calls : ∃ s₁ ret s₂,
    (a.tokenIn = ethSentinel ∧ s₁ = s ∨ a.tokenIn ≠ ethSentinel ∧
      ∃ got, callExternal x (.safeTransferFrom tokenIn_ x.sender x.self a.amountIn) s =
        .ok got s₁) ∧
    UniV3Router.swapExactIn x tokenIn_ tokenOut_ (x.storage.resolvedFee tokenIn_ tokenOut_)
      a.amountIn a.amountOutMin recipient_ x.storage.fallbackSwapRouter s₁ = .ok ret s₂ ∧
    s₂.ledger.balance tokenOut_ recipient_ = s.ledger.balance tokenOut_ recipient_ + out

theorem FallbackExecutes.rejects_iff {x : Ctx} {a : SwapArgs}
    {tokenIn_ tokenOut_ recipient_ : Address} {out : Nat} {s : ChainState}
    (h : FallbackExecutes x a tokenIn_ tokenOut_ recipient_ out s) :
    Rejects (coreFallback x a tokenIn_ tokenOut_ recipient_
      (s.ledger.balance tokenOut_ recipient_)) s ↔ out < a.amountOutMin := by
  obtain ⟨s₁, ret, s₂, pulled, swapped, credited⟩ := h.calls
  apply PropAMM.rejects_iff
  have measured : checkedSub (s.ledger.balance tokenOut_ recipient_ + out)
      (s.ledger.balance tokenOut_ recipient_) = .ok out := by
    rw [checkedSub_ok (Nat.le_add_right _ _), Nat.add_sub_cancel_left]
  -- The pull is skipped for wrapped ETH; both ways the rest is the same.
  rcases pulled with ⟨eth, rfl⟩ | ⟨token, got, pulled⟩
  · simp only [coreFallback, if_neg (not_not_intro eth), wp_bind]
    apply wp_of_ok swapped
    simp only [wp_balanceOf, credited, measured, wp_lift_ok, wp_require, wp_pure]
    exact wp_minimum
  · simp only [coreFallback, if_pos token, wp_bind]
    apply wp_of_ok pulled
    apply wp_of_ok swapped
    simp only [wp_balanceOf, credited, measured, wp_lift_ok, wp_require, wp_pure]
    exact wp_minimum

/-- From `s` the legs, and Uniswap's swap for what they left, run to the end and deliver the
    amount in all. -/
inductive LegsExecute (x : Ctx) (r : LegRun) (legs : List Leg) (s : ChainState) : Nat → Prop
  | filled {delivered s₁}
      (ran : legLoop x r legs 0 0 { s with mark := s.ledger } = .ok (delivered, 0) s₁) :
      LegsExecute x r legs s delivered
  | absorbed {delivered fbAmount s₁ ret s₂ fbOut}
      (ran : legLoop x r legs 0 0 { s with mark := s.ledger } = .ok (delivered, fbAmount) s₁)
      (left : 0 < fbAmount)
      (swapped : UniV3Router.swapExactIn x r.tokenIn_ r.tokenOut_
        (x.storage.resolvedFee r.tokenIn_ r.tokenOut_) fbAmount (r.amountOutMin - delivered)
          (r.measuredAt x) x.storage.fallbackSwapRouter s₁ = .ok ret s₂)
      (credited : s₂.ledger.balance r.tokenOut_ (r.measuredAt x) =
        s₁.ledger.balance r.tokenOut_ (r.measuredAt x) + fbOut)
      (fits : delivered + fbOut < 2 ^ 256) : LegsExecute x r legs s (delivered + fbOut)

/-- Uniswap's own minimum is what the legs left of the aggregate one. -/
theorem LegsExecute.rejects_iff {x : Ctx} {r : LegRun} {legs : List Leg} {s : ChainState} {d : Nat}
    (h : LegsExecute x r legs s d) : Rejects (runLegs x r legs) s ↔ d < r.amountOutMin := by
  apply PropAMM.rejects_iff
  simp only [runLegs, wp_bind, wp_beginExecution]
  cases h with
  | filled ran =>
      apply wp_of_ok ran
      simp only [gt_iff_lt, Nat.lt_irrefl, if_false, wp_bind, wp_pure, wp_require]
      exact wp_minimum
  | @absorbed delivered fbAmount s₁ ret s₂ fbOut ran left swapped credited fits =>
      have measured : checkedSub (s₁.ledger.balance r.tokenOut_ (r.measuredAt x) + fbOut)
          (s₁.ledger.balance r.tokenOut_ (r.measuredAt x)) = .ok fbOut := by
        rw [checkedSub_ok (Nat.le_add_right _ _), Nat.add_sub_cancel_left]
      have floor : (if delivered ≥ r.amountOutMin then 0 else r.amountOutMin - delivered) =
          r.amountOutMin - delivered := by
        split <;> omega
      apply wp_of_ok ran
      simp only [if_pos left, settleRemainder, floor, wp_bind, wp_balanceOf]
      apply wp_of_ok swapped
      simp only [credited, measured, wp_lift_ok, wp_require, checkedAdd_ok fits, emitSwapped,
        wp_emit, wp_pure]
      constructor
      · intro covers
        exact wp_minimum
      · exact fun low => ⟨fun _ => by omega, fun _ => ⟨_, _, rfl⟩⟩

/-- For every gross amount `d`, whether it is accepted as soon as its net meets the
    minimum: by the comparison itself, as a quote to be routed to, and as what an executed
    swap delivered to the router, through one venue, the fallback or the legs of a split. -/
theorem net_enough_accepted_iff {n bps d : Nat} (capped : bps ≤ maxFeeBps)
    (fits : n * bpsDenominator < 2 ^ 256) (fits' : d * bps < 2 ^ 256) :
    ∃ grossMin fee, grossUp n bps = .ok grossMin ∧ feeAmount d bps = .ok fee ∧
      ((n ≤ d - fee → grossMin ≤ d) ↔ ¬ AtBoundary n bps d) ∧
      (∀ (x : Ctx) (venue : Address), venue ≠ 0 → venue ≠ x.storage.fallbackSwapRouter →
        ((n ≤ d - fee → orFallback x (d, venue) grossMin = venue) ↔ ¬ AtBoundary n bps d)) ∧
      (∀ (x : Ctx) (venue tokenIn tokenOut : Address) (amountIn : Nat) (payer : Address)
        (deadline : Nat) (s : ChainState), Executes x venue tokenIn tokenOut amountIn grossMin payer
          x.self deadline d s →
        ((n ≤ d - fee → ∃ s', dispatchVenue x.selfCall venue tokenIn tokenOut amountIn
          grossMin payer x.self deadline (s.ledger.balance tokenOut x.self) s = .ok d s') ↔
          ¬ AtBoundary n bps d)) ∧
      (∀ (x : Ctx) (a : SwapArgs) (tokenIn_ tokenOut_ recipient_ : Address) (s : ChainState),
        a.amountOutMin = grossMin → FallbackExecutes x a tokenIn_ tokenOut_ recipient_ d s →
        ((n ≤ d - fee → ¬ Rejects (coreFallback x a tokenIn_ tokenOut_ recipient_
          (s.ledger.balance tokenOut_ recipient_)) s) ↔ ¬ AtBoundary n bps d)) ∧
      ∀ (x : Ctx) (r : LegRun) (legs : List Leg) (s : ChainState), r.amountOutMin = grossMin →
        LegsExecute x r legs s d →
        ((n ≤ d - fee → ¬ Rejects (runLegs x r legs) s) ↔ ¬ AtBoundary n bps d) := by
  obtain ⟨grossMin, gross, least⟩ := grossUp_ok fits capped
  have decided := net_imp_gross_iff (n := n) (d := d) capped
  rw [← least] at decided
  refine ⟨grossMin, feeOf d bps, gross, feeAmount_ok fits', decided, ?_, ?_, ?_, ?_⟩
  · intro x venue priced other
    have routed : orFallback x (d, venue) grossMin = venue ↔ grossMin ≤ d := by
      unfold orFallback
      split
      · rename_i rejected
        have low : d < grossMin := rejected.resolve_left priced
        exact ⟨fun same => absurd same.symm other,
          fun enough => absurd enough (Nat.not_le_of_lt low)⟩
      · rename_i accepted
        exact ⟨fun _ => Nat.le_of_not_lt fun low => accepted (.inr low), fun _ => rfl⟩
    rw [routed]
    exact decided
  · intro x venue tokenIn tokenOut amountIn payer deadline s executes
    rw [executes.dispatchVenue_ok_iff]
    exact decided
  · intro x a tokenIn_ tokenOut_ recipient_ s minimum executes
    rw [executes.rejects_iff, minimum, Nat.not_lt]
    exact decided
  · intro x r legs s minimum executes
    rw [executes.rejects_iff, minimum, Nat.not_lt]
    exact decided

theorem net_enough_accepted_iff_sample : ∃ grossMin fee, grossUp 99 100 = .ok grossMin ∧
    feeAmount 100 100 = .ok fee ∧
    ((99 ≤ 100 - fee → grossMin ≤ 100) ↔ ¬ AtBoundary 99 100 100) ∧
    (∀ (x : Ctx) (venue : Address), venue ≠ 0 → venue ≠ x.storage.fallbackSwapRouter →
      ((99 ≤ 100 - fee → orFallback x (100, venue) grossMin = venue) ↔ ¬ AtBoundary 99 100 100)) ∧
    (∀ (x : Ctx) (venue tokenIn tokenOut : Address) (amountIn : Nat) (payer : Address)
      (deadline : Nat) (s : ChainState), Executes x venue tokenIn tokenOut amountIn grossMin payer
        x.self deadline 100 s →
      ((99 ≤ 100 - fee → ∃ s', dispatchVenue x.selfCall venue tokenIn tokenOut amountIn
        grossMin payer x.self deadline (s.ledger.balance tokenOut x.self) s = .ok 100 s') ↔
        ¬ AtBoundary 99 100 100)) ∧
    (∀ (x : Ctx) (a : SwapArgs) (tokenIn_ tokenOut_ recipient_ : Address) (s : ChainState),
      a.amountOutMin = grossMin → FallbackExecutes x a tokenIn_ tokenOut_ recipient_ 100 s →
      ((99 ≤ 100 - fee → ¬ Rejects (coreFallback x a tokenIn_ tokenOut_ recipient_
        (s.ledger.balance tokenOut_ recipient_)) s) ↔ ¬ AtBoundary 99 100 100)) ∧
    ∀ (x : Ctx) (r : LegRun) (legs : List Leg) (s : ChainState), r.amountOutMin = grossMin →
      LegsExecute x r legs s 100 →
      ((99 ≤ 100 - fee → ¬ Rejects (runLegs x r legs) s) ↔ ¬ AtBoundary 99 100 100) :=
  net_enough_accepted_iff (n := 99) (d := 100) (by decide) (by decide) (by decide)

/-- One venue at one for one, and Uniswap at half of it. -/
def boundaryMocks : Mocks :=
  { Mocks.plain fun _ n => some n with
    swapRouterOut := fun n => some (n / 2), quoterOut := fun n => some (n / 2) }

def boundaryCtx : Ctx := boundaryMocks.ctx ⟨[0xA7], by decide⟩ 0xCA 0

def boundaryArgs (amountOutMin : Nat) : SwapArgs := ⟨0x11, 0x22, 99, amountOutMin, 0xBE, 10⟩

/-- One per cent of 99 rounds to no fee, so 99 would be received of 99. As a quote, as a
    venue's delivery and as a split's, 99 is still rejected for that minimum, though it
    is paid out in full for a minimum of 98. -/
theorem net_enough_rejected :
    (¬ ∀ n bps d grossMin fee, bps ≤ maxFeeBps → n * bpsDenominator < 2 ^ 256 → d * bps < 2 ^ 256 →
      grossUp n bps = .ok grossMin → feeAmount d bps = .ok fee → n ≤ d - fee → grossMin ≤ d) ∧
    (∃ s', (SwapCall.swapWithFeeV1 (boundaryArgs 99) ⟨100, 0xFE⟩).run boundaryCtx
      (.start (.funded 1000)) = .error (.insufficientOutput 100 49) s') ∧
    (∃ s', (SwapCall.swapViaVenueWithFeeV1 0xA7 (boundaryArgs 99) ⟨100, 0xFE⟩).run boundaryCtx
      (.start (.funded 1000)) = .error (.insufficientOutput 100 49) s') ∧
    (∃ s', (SwapCall.swapSplitWithFeeV1 (boundaryArgs 99) ⟨100, 0xFE⟩).run boundaryCtx
      (.start (.funded 1000)) = .error (.insufficientOutput 100 99) s') ∧
    ∃ s', (SwapCall.swapWithFeeV1 (boundaryArgs 98) ⟨100, 0xFE⟩).run boundaryCtx
      (.start (.funded 1000)) = .ok 99 s' := by
  refine ⟨fun accepted => ?_, exists_revert (by decide +kernel), exists_revert (by decide +kernel),
    exists_revert (by decide +kernel), exists_ok (by decide +kernel)⟩
  exact absurd (accepted 99 100 99 100 0 (by decide) (by decide) (by decide) (by decide)
    (by decide) (by decide)) (by decide)

end PropAMM
