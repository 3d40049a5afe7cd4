import PropAMM.Router.Delisting
import PropAMM.Router.FeeSoundness
import PropAMM.Router.PlanSafety

/-! # What a revert says

Every error that the router itself raises names a condition, and the condition holds of the
call: whatever the callees do, none is raised for another reason. What a callee reverted
with is passed on as `external` and promises nothing. Planning contributes nothing of its
own to the list but the balance bracket.
-/

namespace PropAMM

open Txn FrontendFees

/-- The ETH that must be attached. -/
def SwapArgs.dueValue (a : SwapArgs) : Nat := if a.tokenIn = ethSentinel then a.amountIn else 0

namespace SwapCall

/-- The venue an entrypoint is told to use. -/
def venue? : SwapCall → Option Address
  | swapViaVenueV1 venue _ | swapViaVenueWithFeeV1 venue _ _ => some venue
  | _ => none

/-- The minimum before the fee, where it can be computed. -/
def grossMin? (call : SwapCall) : Option Nat :=
  match call.fee? with
  | none => some call.args.amountOutMin
  | some fee => (grossUp call.args.amountOutMin fee.bps).toOption

/-- What an error of the swap entrypoints asserts of the call; a callee's asserts nothing. -/
def Explains (x : Ctx) (call : SwapCall) : RouterError → Prop
  | .enforcedPause => x.storage.paused = true
  | .reentrancyGuardReentrantCall => x.entered = true
  | .expired => call.args.deadline < x.timestamp
  | .unknownVenue => ∃ venue, call.venue? = some venue ∧ ¬ x.storage.isVenue venue
  | .invalidValue expected received =>
    expected = call.args.dueValue ∧ received = x.value ∧ received ≠ expected
  | .identicalTokens => resolveToken call.args.tokenIn = resolveToken call.args.tokenOut
  | .insufficientOutput expected received =>
    received < expected ∧ ∃ grossMin, call.grossMin? = some grossMin ∧ expected ≤ grossMin
  | .ethTransferFailed => call.args.tokenOut = ethSentinel
  | .feeBpsTooHigh requested max => (∃ fee, call.fee? = some fee ∧ requested = fee.bps) ∧
    max = maxFeeBps ∧ max < requested
  | .zeroAddress => ∃ fee, call.fee? = some fee ∧ fee.recipient = 0
  | .zeroAmount => call.isSplit = true ∧ call.args.amountIn = 0
  | .amountTooLarge amount => call.isSplit = true ∧ amount = call.args.amountIn ∧ maxU128 < amount
  | .tooManyVenues count => call.isSplit = true ∧ count = x.storage.whitelistedVenueCount ∧
    isSplitAvailable x.storage = false
  | .quoteBalanceInvariantViolated => call.isSplit = true
  | .panicked code => code = 0x11
  | .external => True
  | _ => False

end SwapCall

/-- The errors of executing `a` with minimums of at most `most`. -/
structure Excuses (x : Ctx) (a : SwapArgs) (most : Nat) (A : RouterError → Prop) : Prop where
  external : A .external
  overflow : A (.panicked 0x11)
  short : ∀ expected received, received < expected → expected ≤ most →
    A (.insufficientOutput expected received)
  expired : a.deadline < x.timestamp → A .expired
  value : x.value ≠ a.dueValue → A (.invalidValue a.dueValue x.value)
  identical : resolveToken a.tokenIn = resolveToken a.tokenOut → A .identicalTokens
  unpaid : a.tokenOut = ethSentinel → A .ethTransferFailed

section Execution

variable {x : Ctx} {a : SwapArgs} {most : Nat} {A : RouterError → Prop}

/-- The errors do not depend on who is paid, or on the minimum itself. -/
theorem Excuses.regross (h : Excuses x a most A) (amountOutMin : Nat) (recipient : Address) :
    Excuses x { a with amountOutMin, recipient } most A :=
  ⟨h.external, h.overflow, h.short, h.expired, h.value, h.identical, h.unpaid⟩

theorem excused_wrapInput (h : Excuses x a most A) :
    Raises A (wrapInput x a.tokenIn a.amountIn) := by
  unfold wrapInput
  split
  · rename_i eth
    have due : a.dueValue = a.amountIn := if_pos eth
    apply Raises.gate
    · intro _
      exact Raises.bind (excused_call h.external _) fun _ => Raises.pure _
    · intro wrong
      exact due ▸ h.value (due ▸ wrong)
  · rename_i erc20
    have due : a.dueValue = 0 := if_neg erc20
    apply Raises.gate
    · intro _
      exact Raises.pure _
    · intro wrong
      exact due ▸ h.value (due ▸ wrong)

theorem ensures_wrapInput_token {s : ChainState} :
    Ensures (wrapInput x a.tokenIn a.amountIn) s (fun p _ => p.1 = resolveToken a.tokenIn) := by
  unfold wrapInput
  split
  · rename_i eth
    simp only [Ensures, wp_bind, wp_require, ensures_callExternal, wp_pure, eth,
      resolveToken_sentinel]
    exact ⟨fun _ _ _ _ => trivial, fun _ => trivial⟩
  · rename_i erc20
    simp only [Ensures, wp_bind, wp_require, wp_pure]
    exact ⟨fun _ => (resolveToken_token erc20).symm, fun _ => trivial⟩

theorem excused_coreFallback (h : Excuses x a most A) (least : a.amountOutMin ≤ most)
    (tokenIn_ tokenOut_ recipient_ : Address) (prevTokenOutBalance : Nat) :
    Raises A (coreFallback x a tokenIn_ tokenOut_ recipient_ prevTokenOutBalance) := by
  have swapped : Raises A (do
      let _ ← UniV3Router.swapExactIn x tokenIn_ tokenOut_
        (x.storage.resolvedFee tokenIn_ tokenOut_) a.amountIn a.amountOutMin recipient_
          x.storage.fallbackSwapRouter
      let balance ← balanceOf tokenOut_ recipient_
      let amountOut ← lift (checkedSub balance prevTokenOutBalance)
      require (amountOut ≥ a.amountOutMin) (.insufficientOutput a.amountOutMin amountOut)
      forwardETH x a.tokenOut a.recipient amountOut
      return (amountOut, x.storage.fallbackSwapRouter) : RouterM (Nat × Address)) := by
    apply Raises.bind (excused_swapExactIn h.external _ _ _ _ _ _ _)
    intro _
    apply Raises.bind (Raises.reads _)
    intro balance
    apply Raises.bind (excused_sub h.overflow _ _)
    intro amountOut
    apply Raises.gate
    · intro _
      exact Raises.bind (excused_forwardETH h.external h.unpaid _ _) fun _ => Raises.pure _
    · intro low
      exact h.short _ _ (Nat.lt_of_not_ge low) least
  unfold coreFallback
  split
  · exact Raises.bind (excused_call h.external _) fun _ => swapped
  · exact swapped

theorem excused_coreSwap (h : Excuses x a most A) (least : a.amountOutMin ≤ most)
    (venue : Address) : Raises A (coreSwap x venue a) := by
  apply Raises.gate
  · intro _
    apply Raises.bind_of (Q := fun p => p.1 = resolveToken a.tokenIn) (excused_wrapInput h)
    · exact fun s => ensures_wrapInput_token
    · intro wrapped token
      apply Raises.gate
      · intro _
        apply Raises.bind
        · exact fun _ => trivial
        intro _
        apply Raises.bind (Raises.reads _)
        intro prevTokenOutBalance
        have fallback := excused_coreFallback h least wrapped.1 (resolveToken a.tokenOut)
          (measuredAt x a.tokenOut a.recipient) prevTokenOutBalance
        refine Raises.ite ?_ fallback
        apply Raises.bind Raises.attempt
        intro reply
        cases reply with
        | none => exact fallback
        | some amountOut =>
            exact Raises.bind (excused_forwardETH h.external h.unpaid _ _) fun _ => Raises.pure _
      · intro same
        exact h.identical (token ▸ not_not.mp same)
  · intro late
    exact h.expired (Nat.lt_of_not_le late)

theorem excused_executeSwap (h : Excuses x a most A) (least : a.amountOutMin ≤ most)
    (venue : Address) : Raises A (executeSwap x venue a) := by
  apply Raises.bind (excused_coreSwap h least venue)
  intro executed
  exact Raises.bind (excused_emit _) fun _ => Raises.pure _

theorem excused_feeAmount (overflow : A (.panicked 0x11)) (amount feeBps : Nat) :
    Raises A (lift (feeAmount amount feeBps) : RouterM Nat) := by
  intro s
  simp only [wp_feeAmount]
  exact ⟨fun _ => trivial, fun _ => overflow⟩

theorem excused_skimAndDisburse (h : Excuses x a most A) (least : a.amountOutMin ≤ most)
    (delivered : Nat) (fee : FrontendFee) :
    Raises A (skimAndDisburse x a.tokenOut delivered fee a.recipient a.amountOutMin) := by
  apply Raises.bind (excused_feeAmount h.overflow _ _)
  intro feeAmt
  apply Raises.bind (excused_sub h.overflow _ _)
  intro net
  apply Raises.bind
  · refine Raises.ite ?_ (Raises.pure _)
    split
    · rename_i eth
      exact Raises.bind (excused_sendETH (h.unpaid eth) _ _) fun _ => excused_emit _
    · exact Raises.bind (excused_call h.external _) fun _ => excused_emit _
  intro _
  apply Raises.bind
  · exact fun _ => trivial
  intro _
  apply Raises.bind
  · unfold disburse
    split
    · rename_i eth
      refine Raises.ite ?_ (Raises.pure _)
      exact Raises.bind (excused_sendETH (h.unpaid eth) _ _) fun _ => Raises.pure _
    · have measured : ∀ prevBalance, Raises A (do
          let balance ← balanceOf a.tokenOut a.recipient
          lift (checkedSub balance prevBalance) : RouterM Nat) := fun prevBalance =>
        Raises.bind (Raises.reads _) fun balance => excused_sub h.overflow balance prevBalance
      apply Raises.bind (Raises.reads _)
      intro prevBalance
      exact Raises.ite (Raises.bind (excused_call h.external _) fun _ => measured _) (measured _)
  · intro out
    apply Raises.gate
    · intro _
      exact Raises.pure _
    · intro low
      exact h.short _ _ (Nat.lt_of_not_ge low) least

theorem excused_executeSwapWithFee (h : Excuses x a most A) (least : a.amountOutMin ≤ most)
    {grossMin : Nat} (least_gross : grossMin ≤ most) (venue : Address) (fee : FrontendFee) :
    Raises A (executeSwapWithFee x venue a grossMin fee) := by
  apply Raises.bind (excused_coreSwap (h.regross grossMin x.self) least_gross venue)
  intro executed
  apply Raises.bind (excused_skimAndDisburse h least _ fee)
  intro amountOut
  exact Raises.bind (excused_emit _) fun _ => Raises.pure _

/-! ## Selecting -/

theorem excused_pickBestPropAMM (tokenIn tokenOut : Address) (amount : Nat) :
    Raises A (pickBestPropAMM x tokenIn tokenOut amount) := by
  unfold pickBestPropAMM
  generalize x.storage.getWhitelistedVenues = rest, ((0, 0) : Nat × Address) = best
  induction rest generalizing best with
  | nil => exact Raises.pure best
  | cons candidate rest ih =>
      apply Raises.bind Raises.attempt
      intro reply
      cases reply with
      | none => exact ih best
      | some amountOut => exact ih _

theorem excused_pickBestVenueFrom (venues : List Address) (tokenIn tokenOut : Address)
    (amount : Nat) : Raises A (pickBestVenueFrom x venues tokenIn tokenOut amount) := by
  unfold pickBestVenueFrom
  generalize ((0, 0) : Nat × Address) = best
  induction venues generalizing best with
  | nil => exact Raises.pure best
  | cons venue rest ih =>
      apply Raises.bind Raises.attempt
      intro reply
      cases reply with
      | none => exact ih best
      | some quoted => exact ih _

/-! ## Splitting -/

theorem excused_pullSplitFunds (h : Excuses x a most A) :
    Raises A (pullSplitFunds x a.tokenIn a.tokenOut a.amountIn) := by
  apply Raises.gate
  · intro _
    split
    · rename_i eth
      have due : a.dueValue = a.amountIn := if_pos eth
      apply Raises.gate
      · intro _
        exact Raises.bind (excused_call h.external _) fun _ => Raises.pure _
      · intro wrong
        exact due ▸ h.value (due ▸ wrong)
    · rename_i erc20
      have due : a.dueValue = 0 := if_neg erc20
      apply Raises.gate
      · intro _
        exact Raises.bind (excused_call h.external _) fun _ => Raises.pure _
      · intro wrong
        exact due ▸ h.value (due ▸ wrong)
  · intro same
    exact h.identical (not_not.mp same)

theorem excused_settleRemainder (h : Excuses x a most A) {r : LegRun}
    (least : r.amountOutMin ≤ most) (delivered fbAmount : Nat) :
    Raises A (settleRemainder x r delivered fbAmount) := by
  apply Raises.bind (Raises.reads _)
  intro prevBal
  apply Raises.bind (excused_swapExactIn h.external _ _ _ _ _ _ _)
  intro _
  apply Raises.bind (Raises.reads _)
  intro balance
  apply Raises.bind (excused_sub h.overflow _ _)
  intro fbOut
  apply Raises.gate
  · intro _
    apply Raises.bind (excused_add h.overflow _ _)
    intro delivered
    exact Raises.bind (excused_emit _) fun _ => Raises.pure _
  · intro low
    refine h.short _ _ (Nat.lt_of_not_ge low) ?_
    split
    · exact Nat.zero_le _
    · exact (Nat.sub_le _ _).trans least

theorem excused_runLegs (h : Excuses x a most A) {r : LegRun} (same : r.tokenOut = a.tokenOut)
    (least : r.amountOutMin ≤ most) (legs : List Leg) : Raises A (runLegs x r legs) := by
  have finish : ∀ delivered, Raises A (do
      require (delivered ≥ r.amountOutMin) (.insufficientOutput r.amountOutMin delivered)
      forwardETH x r.tokenOut r.payTo delivered
      return delivered : RouterM Nat) := by
    intro delivered
    apply Raises.gate
    · intro _
      exact Raises.bind (excused_forwardETH h.external (fun eth => h.unpaid (same ▸ eth)) _ _)
        fun _ => Raises.pure _
    · intro low
      exact h.short _ _ (Nat.lt_of_not_ge low) least
  apply Raises.bind
  · exact fun _ => trivial
  intro _
  apply Raises.bind (excused_legLoop h.overflow r legs 0 0)
  intro run
  exact Raises.ite (Raises.bind (excused_settleRemainder h least _ _) finish)
    (Raises.bind (Raises.pure _) finish)

/-- A plan that adds up is never rejected as a misallocation. -/
theorem excused_executeLegs (h : Excuses x a most A) {r : LegRun} (same : r.tokenOut = a.tokenOut)
    (least : r.amountOutMin ≤ most) {legs : List Leg} (allocated : allocatedBy legs = r.totalIn)
    (positive : 0 < r.totalIn) : Raises A (executeLegs x r legs) := by
  have nonempty : legs.length > 0 := by
    cases legs with
    | nil =>
        rw [allocatedBy_nil] at allocated
        omega
    | cons leg legs => exact Nat.succ_pos _
  have adding : ∀ (l : List Leg) (n : Nat) (e : RouterError), allocate l n = .error e → A e := by
    intro l
    induction l with
    | nil =>
        intro n e failed
        cases failed
    | cons leg l ih =>
        intro n e failed
        unfold allocate checkedAdd at failed
        split at failed
        · exact ih _ e failed
        · cases failed
          exact h.overflow
  apply Raises.bind_of (Q := fun n => n = r.totalIn) (Raises.lift (adding legs 0))
  · intro s
    apply wp_allocate
    rw [Nat.zero_add, allocated]
  · intro n total
    apply Raises.gate
    · intro _
      exact Raises.gate (fun _ => excused_runLegs h same least legs) fun wrong => absurd total wrong
    · exact fun none => absurd nonempty none

theorem excused_splitSwap (h : Excuses x a most A) (bracket : A .quoteBalanceInvariantViolated)
    (positive : 0 < a.amountIn) (bounded : a.amountIn ≤ maxU128) {amountOutMin : Nat}
    (least : amountOutMin ≤ most) (payTo : Address) :
    Raises A (splitSwap x x.storage.getWhitelistedVenues a amountOutMin payTo) := by
  apply Raises.bind (excused_pullSplitFunds h)
  intro pulled
  apply Raises.bind_of (Q := fun legs => allocatedBy legs = a.amountIn)
  · intro s
    refine wp_mono (wp_planSplit positive bounded) (fun _ _ _ => trivial) ?_
    rintro e s' ⟨rfl, _⟩
    exact bracket
  · intro s
    refine wp_mono (wp_planSplit positive bounded) ?_ (fun _ _ _ => trivial)
    rintro legs s' ⟨_, _, _, _, sound⟩
    exact sound.allocated
  · intro legs allocated
    exact excused_executeLegs h rfl least allocated positive

end Execution

/-! ## Entrypoints -/

section Entrypoints

variable {x : Ctx} {call : SwapCall} {A : RouterError → Prop}

theorem excused_guarded {α : Type} {body : Ctx → RouterM α}
    (paused : x.storage.paused = true → A .enforcedPause)
    (entered : x.entered = true → A .reentrancyGuardReentrantCall) (h : Raises A (body x.enter)) :
    Raises A (guarded x body) := by
  apply Raises.gate
  · intro _
    apply Raises.gate
    · exact fun _ => h
    · exact fun busy => entered (Bool.not_eq_false _ ▸ busy)
  · exact fun halted => paused (Bool.not_eq_false _ ▸ halted)

/-- What an entrypoint's own conditions excuse in its body. -/
theorem SwapCall.excuses (call : SwapCall) {most : Nat} (gross : call.grossMin? = some most) :
    Excuses x.enter call.args most (call.Explains x) where
  external := trivial
  overflow := rfl
  short _ _ low le := ⟨low, most, gross, le⟩
  expired late := late
  value wrong := ⟨rfl, rfl, wrong⟩
  identical same := same
  unpaid eth := eth

theorem excused_validateFee {α : Type} {fee : FrontendFee} (charged : call.fee? = some fee)
    {f : PUnit → RouterM α} (h : fee.bps ≤ maxFeeBps → Raises (call.Explains x) (f ⟨⟩)) :
    Raises (call.Explains x) (validateFee fee >>= f) := by
  intro s
  simp only [validateFee, wp_bind, wp_require]
  refine ⟨fun capped => ⟨fun _ => h capped s, fun zero => ?_⟩, fun high => ?_⟩
  · exact ⟨fee, charged, not_not.mp zero⟩
  · exact ⟨⟨fee, charged, rfl⟩, rfl, Nat.lt_of_not_le high⟩

/-- The gross minimum is not below the net one, and computing it can only overflow. -/
theorem excused_grossUp (call : SwapCall) {α : Type} {fee : FrontendFee}
    (charged : call.fee? = some fee) (capped : fee.bps ≤ maxFeeBps) {f : Nat → RouterM α}
    (h : ∀ grossMin, call.grossMin? = some grossMin → call.args.amountOutMin ≤ grossMin →
      Raises (call.Explains x) (f grossMin)) :
    Raises (call.Explains x) (lift (grossUp call.args.amountOutMin fee.bps) >>= f) := by
  by_cases fits : call.args.amountOutMin * bpsDenominator < 2 ^ 256
  · obtain ⟨grossMin, gross, least⟩ := grossUp_ok fits capped
    have known : call.grossMin? = some grossMin := by
      rw [SwapCall.grossMin?, charged]
      exact congrArg Except.toOption gross
    have covered : call.args.amountOutMin ≤ grossMin := by
      have covers := (least grossMin).mp (Nat.le_refl grossMin)
      have shrinks := Nat.mul_le_mul_left grossMin (Nat.sub_le bpsDenominator fee.bps)
      exact Nat.le_of_mul_le_mul_right (covers.trans shrinks) (by decide)
    rw [gross]
    exact h grossMin known covered
  · have failed : grossUp call.args.amountOutMin fee.bps = .error (.panicked 0x11) := by
      rw [grossUp, checkedMul, if_neg fits]
      rfl
    rw [failed]
    exact fun _ => rfl

theorem excused_isVenue {α : Type} {venue : Address} (told : call.venue? = some venue)
    {f : PUnit → RouterM α} (h : Raises (call.Explains x) (f ⟨⟩)) :
    Raises (call.Explains x) (require (x.storage.isVenue venue) .unknownVenue >>= f) :=
  Raises.gate (fun _ => h) fun unlisted => ⟨venue, told, unlisted⟩

/-- The checks of the split entrypoints. -/
theorem excused_splitChecks (call : SwapCall) {α : Type} (split : call.isSplit = true)
    {f : List Address → RouterM α} (h : 0 < call.args.amountIn → call.args.amountIn ≤ maxU128 →
      Raises (call.Explains x) (f x.storage.getWhitelistedVenues)) :
    Raises (call.Explains x) (do
      require (x.enter.timestamp ≤ call.args.deadline) .expired
      validateSplitParams call.args.amountIn
      let venueSet ← collectVenues x.enter
      f venueSet) := by
  intro s
  simp only [validateSplitParams, collectVenues, wp_bind, wp_require, wp_pure]
  refine ⟨fun _ =>
    ⟨fun positive => ⟨fun bounded => ⟨fun _ => h positive bounded s, fun many => ?_⟩,
      fun large => ?_⟩,
    fun zero => ?_⟩, fun late => Nat.lt_of_not_le late⟩
  · exact ⟨split, rfl, decide_eq_false many⟩
  · exact ⟨split, rfl, Nat.lt_of_not_le large⟩
  · exact ⟨split, Nat.eq_zero_of_not_pos zero⟩

theorem raises_fst {α : Type} {m : RouterM (Nat × α)} (h : Raises A m) :
    Raises A (Prod.fst <$> m) := by
  intro s
  rw [wp_map]
  exact h s

theorem excused_run (x : Ctx) (call : SwapCall) : Raises (call.Explains x) (call.run x) := by
  have halted : x.storage.paused = true → call.Explains x .enforcedPause := id
  have busy : x.entered = true → call.Explains x .reentrancyGuardReentrantCall := id
  cases call with
  | swapV1 a =>
      have excuses := SwapCall.excuses (x := x) (.swapV1 a) rfl
      apply raises_fst
      apply excused_guarded halted busy
      apply Raises.bind (excused_pickBestPropAMM _ _ _)
      intro best
      exact excused_executeSwap excuses (Nat.le_refl _) _
  | swapWithFeeV1 a fee =>
      apply raises_fst
      apply excused_guarded halted busy
      apply excused_validateFee rfl
      intro capped
      apply excused_grossUp (.swapWithFeeV1 a fee) rfl capped
      intro grossMin gross covered
      apply Raises.bind (excused_pickBestPropAMM _ _ _)
      intro best
      exact excused_executeSwapWithFee (SwapCall.excuses _ gross) covered (Nat.le_refl _) _ _
  | swapViaVenueV1 venue a =>
      have excuses := SwapCall.excuses (x := x) (.swapViaVenueV1 venue a) rfl
      apply raises_fst
      apply excused_guarded halted busy
      apply excused_isVenue rfl
      exact excused_executeSwap excuses (Nat.le_refl _) _
  | swapViaVenueWithFeeV1 venue a fee =>
      rw [SwapCall.run]
      apply excused_guarded halted busy
      apply excused_validateFee rfl
      intro capped
      apply excused_isVenue rfl
      apply excused_grossUp (.swapViaVenueWithFeeV1 venue a fee) rfl capped
      intro grossMin gross covered
      have excuses := SwapCall.excuses (x := x) _ gross
      have executed := excused_executeSwapWithFee excuses covered (Nat.le_refl _) venue fee
      exact Raises.bind executed fun _ => Raises.pure _
  | swapViaSelectedVenuesV1 venues a =>
      have excuses := SwapCall.excuses (x := x) (.swapViaSelectedVenuesV1 venues a) rfl
      apply raises_fst
      apply excused_guarded halted busy
      apply Raises.bind (excused_pickBestVenueFrom _ _ _ _)
      intro best
      exact excused_executeSwap excuses (Nat.le_refl _) _
  | swapViaSelectedVenuesWithFeeV1 venues a fee =>
      apply raises_fst
      apply excused_guarded halted busy
      apply excused_validateFee rfl
      intro capped
      apply excused_grossUp (.swapViaSelectedVenuesWithFeeV1 venues a fee) rfl capped
      intro grossMin gross covered
      apply Raises.bind (excused_pickBestVenueFrom _ _ _ _)
      intro best
      exact excused_executeSwapWithFee (SwapCall.excuses _ gross) covered (Nat.le_refl _) _ _
  | swapSplitV1 a =>
      have excuses := SwapCall.excuses (x := x) (.swapSplitV1 a) rfl
      rw [SwapCall.run]
      apply excused_guarded halted busy
      apply excused_splitChecks (.swapSplitV1 a) rfl
      intro positive bounded
      exact excused_splitSwap excuses rfl positive bounded (Nat.le_refl _) _
  | swapSplitWithFeeV1 a fee =>
      rw [SwapCall.run]
      apply excused_guarded halted busy
      apply excused_validateFee rfl
      intro capped
      apply excused_splitChecks (.swapSplitWithFeeV1 a fee) rfl
      intro positive bounded
      apply excused_grossUp (.swapSplitWithFeeV1 a fee) rfl capped
      intro grossMin gross covered
      have excuses := SwapCall.excuses (x := x) _ gross
      apply Raises.bind (excused_splitSwap excuses rfl positive bounded (Nat.le_refl _) _)
      intro delivered
      exact excused_skimAndDisburse excuses covered _ _

end Entrypoints

namespace UserCall

/-- What an error of a user's entrypoint asserts. The quotes that choose among venues
    have one error of their own, and the self-only entrypoints never get further. -/
def Explains (x : Ctx) : UserCall → RouterError → Prop
  | quoteV1 _ _ _, e | quoteSelectedVenuesV1 _ _ _ _, e => e = .noQuotesAvailable
  | quoteVenueV1 venue _ _ _, e => e = if x.storage.isVenue venue then .external else .unknownVenue
  | quoteVenueUnchecked _ _ _ _, e | quoteFillableUnchecked _ _ _ _, e => e = .onlySelf
  | dispatchVenue _ _ _ _ _ _ _ _ _, e => e = .onlySelf
  | swap call, e => call.Explains x e

end UserCall

end PropAMM
