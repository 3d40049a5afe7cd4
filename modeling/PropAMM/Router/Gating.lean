import PropAMM.Router.Runs

/-! # Who the router calls

Whether it returns or reverts, an entrypoint quotes and swaps through venues of
the configuration it started with, and sends its `tokenIn` to no one else. The
calls are those of the ghost trace, which no revert forgets.
-/

namespace PropAMM

open Txn FrontendFees

/-- A call that a user who sells `token` may cause. The caller's `token` is pulled onto
    the router itself; native ETH counts as WETH, unless it is being wrapped. -/
def Gated (st : RouterStorage) (self token : Address) : ExtCall → Prop
  | .quote venue _ _ _ | .quoteFillable venue _ _ _ | .supportsInterface venue => st.isVenue venue
  | .swap venue _ _ _ _ _ _ => st.isWhitelistedVenue venue
  | .quoteExactInputSingle quoter _ _ _ _ => quoter = st.fallbackQuoter
  | .exactInputSingle swapRouter _ _ _ _ _ _ => swapRouter = st.fallbackSwapRouter
  | .safeTransfer t target _ => t = token → st.isWhitelistedVenue target
  | .safeTransferFrom t _ target _ => t = token → st.isWhitelistedVenue target ∨ target = self
  | .forceApprove _ spender _ => spender = st.fallbackSwapRouter
  | .sendValue _ _ => token ≠ weth
  | .deposit _ | .withdraw _ => True

/-- The calls made from `s` to `s'` are all in `A`. -/
def MadeOnly (A : ExtCall → Prop) (s s' : ChainState) : Prop :=
  ∃ calls, s'.trace = calls ++ s.trace ∧ ∀ c ∈ calls, A c

section MadeOnly

variable {A : ExtCall → Prop} {s s' : ChainState}

theorem MadeOnly.quiet (same : s'.trace = s.trace) : MadeOnly A s s' :=
  ⟨[], same, fun _ member => absurd member List.not_mem_nil⟩

theorem MadeOnly.one {c : ExtCall} (allowed : A c) (made : s'.trace = c :: s.trace) :
    MadeOnly A s s' := by
  refine ⟨[c], made, ?_⟩
  intro d member
  rw [List.mem_singleton.mp member]
  exact allowed

instance : Frame (MadeOnly A) where
  refl _ := .quiet rfl
  trans := by
    rintro s t u ⟨first, made, allowed⟩ ⟨later, made', allowed'⟩
    refine ⟨later ++ first, ?_, ?_⟩
    · rw [made', made, List.append_assoc]
    · intro c member
      rcases List.mem_append.mp member with h | h
      · exact allowed' c h
      · exact allowed c h
  rollback h := h

theorem madeFrame (x : Ctx) (A : ExtCall → Prop) : CallFrame x (MadeOnly A) A where
  recorded _ _ allowed := .one allowed rfl
  called _ _ _ _ allowed _ := .one allowed rfl

theorem made_emit (e : Event) : Within (MadeOnly A) (emit e) := fun _ => .quiet rfl

theorem made_beginExecution : Within (MadeOnly A) beginExecution := fun _ => .quiet rfl

end MadeOnly

/-- The relation every entrypoint keeps. -/
abbrev Keeping (x : Ctx) (token : Address) : ChainState → ChainState → Prop :=
  MadeOnly (Gated x.storage x.self token)

section Gated

variable {x : Ctx} {token : Address}

theorem gated_of_quote {c : ExtCall} (h : QuoteAllowed x.storage c) :
    Gated x.storage x.self token c := by
  cases c with
  | quote | quoteFillable | supportsInterface | quoteExactInputSingle => exact h
  | _ => exact h.elim

/-- Quotes and plans call listed venues and the quoter only. -/
theorem quoteFrame (x : Ctx) (token : Address) :
    CallFrame x (Keeping x token) (QuoteAllowed x.storage) :=
  (madeFrame x _).mono fun _ => gated_of_quote

theorem gated_call {c : ExtCall} (allowed : Gated x.storage x.self token c) :
    Within (Keeping x token) (callExternal x c) :=
  within_callExternal (madeFrame x _) allowed

theorem gated_swapExactIn (tokenIn tokenOut : Address) (fee amountIn amountOutMinimum : Nat)
    (recipient : Address) :
    Within (Keeping x token)
      (UniV3Router.swapExactIn x tokenIn tokenOut fee amountIn amountOutMinimum recipient
      x.storage.fallbackSwapRouter) := by
  apply Within.bind
  · exact gated_call rfl
  intro _
  apply Within.bind
  · exact gated_call rfl
  intro ret
  apply Within.bind (within_decode _)
  intro _
  exact Within.bind (gated_call rfl) fun _ => Within.pure _

/-- ETH is paid out only where it is not what is sold. -/
theorem gated_sendETH (other : token ≠ weth) (target : Address) (amount : Nat) :
    Within (Keeping x token) (sendETH x target amount) := by
  apply Within.bind
  · apply Within.bind
    · exact Within.attempt (gated_call other)
    intro reply
    cases reply with
    | none => exact Within.pure _
    | some ret => exact Within.pure _
  · intro ok
    exact Within.require _ _

theorem gated_forwardETH {tokenOut : Address} (distinct : token ≠ resolveToken tokenOut)
    (target : Address) (amount : Nat) :
    Within (Keeping x token) (forwardETH x tokenOut target amount) := by
  unfold forwardETH
  split
  · rename_i eth
    rw [eth, resolveToken_sentinel] at distinct
    apply Within.bind
    · exact gated_call trivial
    intro _
    exact Within.ite (gated_sendETH distinct _ _) (Within.pure _)
  · exact Within.pure _

/-- The whitelist is checked before anything is sent to the venue. -/
theorem gated_dispatchVenue (venue tokenIn tokenOut : Address) (amountIn amountOutMin : Nat)
    (payer recipient : Address) (deadline prevTokenOutBalance : Nat) :
    Within (Keeping x token)
      (dispatchVenue x venue tokenIn tokenOut amountIn amountOutMin payer recipient deadline
      prevTokenOutBalance) := by
  apply Within.gate
  intro _
  apply Within.gate
  intro listed
  have pushed : Gated x.storage x.self token
      (if payer = x.self then .safeTransfer tokenIn venue amountIn
      else .safeTransferFrom tokenIn payer venue amountIn) := by
    split
    · exact fun _ => listed
    · exact fun _ => .inl listed
  apply Within.bind
  · exact gated_call pushed
  intro _
  apply Within.bind
  · exact gated_call listed
  intro ret
  apply Within.bind (within_decode _)
  intro _
  apply Within.bind (Within.reads _)
  intro balance
  apply Within.bind (Within.lift _)
  intro amountOut
  exact Within.bind (Within.require _ _) fun _ => Within.pure _

theorem gated_wrapInput (tokenIn : Address) (amountIn : Nat) :
    Within (Keeping x token) (wrapInput x tokenIn amountIn) := by
  apply Within.ite
  · apply Within.bind (Within.require _ _)
    intro _
    exact Within.bind (gated_call trivial) fun _ => Within.pure _
  · exact Within.bind (Within.require _ _) fun _ => Within.pure _

section Core

variable {a : SwapArgs}

theorem gated_coreFallback (distinct : token ≠ resolveToken a.tokenOut)
    (tokenIn_ tokenOut_ recipient_ : Address) (prevTokenOutBalance : Nat) :
    Within (Keeping x token)
      (coreFallback x a tokenIn_ tokenOut_ recipient_ prevTokenOutBalance) := by
  have rest : Within (Keeping x token) (do
      let _ ← UniV3Router.swapExactIn x tokenIn_ tokenOut_
        (x.storage.resolvedFee tokenIn_ tokenOut_) a.amountIn a.amountOutMin recipient_
          x.storage.fallbackSwapRouter
      let balance ← balanceOf tokenOut_ recipient_
      let amountOut ← lift (checkedSub balance prevTokenOutBalance)
      require (amountOut ≥ a.amountOutMin) (.insufficientOutput a.amountOutMin amountOut)
      forwardETH x a.tokenOut a.recipient amountOut
      return (amountOut, x.storage.fallbackSwapRouter)) := by
    apply Within.bind (gated_swapExactIn _ _ _ _ _ _)
    intro _
    apply Within.bind (Within.reads _)
    intro balance
    apply Within.bind (Within.lift _)
    intro amountOut
    apply Within.bind (Within.require _ _)
    intro _
    exact Within.bind (gated_forwardETH distinct _ _) fun _ => Within.pure _
  apply Within.ite
  · exact Within.bind (gated_call fun _ => .inr rfl) fun _ => rest
  · exact rest

theorem gated_coreExecute (distinct : token ≠ resolveToken a.tokenOut)
    (venue tokenIn_ payer : Address) :
    Within (Keeping x token) (coreExecute x venue a tokenIn_ payer) := by
  apply Within.bind made_beginExecution
  intro _
  apply Within.bind (Within.reads _)
  intro prevTokenOutBalance
  apply Within.ite _ (gated_coreFallback distinct _ _ _ _)
  apply Within.bind
  · have dispatched : Within (Keeping x.selfCall token) (dispatchVenue x.selfCall venue tokenIn_
        (resolveToken a.tokenOut) a.amountIn a.amountOutMin payer
          (measuredAt x a.tokenOut a.recipient) a.deadline
        prevTokenOutBalance) := gated_dispatchVenue _ _ _ _ _ _ _ _ _
    exact Within.attempt dispatched
  · intro reply
    cases reply with
    | none => exact gated_coreFallback distinct _ _ _ _
    | some amountOut => exact Within.bind (gated_forwardETH distinct _ _) fun _ => Within.pure _

/-- The input and output tokens are told apart before anything is paid out. -/
theorem gated_coreSwap (venue : Address) :
    Within (Keeping x (resolveToken a.tokenIn)) (coreSwap x venue a) := by
  apply Within.bind (Within.require _ _)
  intro _
  apply Within.bind_of (Q := fun p => p.1 = resolveToken a.tokenIn) (gated_wrapInput _ _)
  · intro s
    simp only [wrapInput, Ensures, wp_ite, wp_bind, wp_require, ensures_callExternal, wp_pure,
      implies_true, and_true]
    constructor
    · intro eth _ ret L _
      rw [eth, resolveToken_sentinel]
    · intro erc20 _
      rw [resolveToken_token erc20]
  · intro p input
    apply Within.gate
    intro distinct
    rw [input] at distinct
    exact gated_coreExecute distinct venue _ _

end Core

section Fees

variable {tokenOut : Address} {fee : FrontendFee}

theorem gated_payment (distinct : token ≠ resolveToken tokenOut) (erc20 : tokenOut ≠ ethSentinel)
    (target : Address) (amount : Nat) :
    Within (Keeping x token) (callExternal x (.safeTransfer tokenOut target amount)) := by
  rw [resolveToken_token erc20] at distinct
  exact gated_call fun same => absurd same.symm distinct

theorem gated_skim (distinct : token ≠ resolveToken tokenOut) (feeAmt : Nat) :
    Within (Keeping x token) (skim x tokenOut feeAmt fee) := by
  apply Within.ite _ (Within.pure _)
  split
  · rename_i eth
    rw [eth, resolveToken_sentinel] at distinct
    exact Within.bind (gated_sendETH distinct _ _) fun _ => made_emit _
  · rename_i erc20
    exact Within.bind (gated_payment distinct erc20 _ _) fun _ => made_emit _

theorem gated_disburse (distinct : token ≠ resolveToken tokenOut) (net : Nat)
    (recipient : Address) : Within (Keeping x token) (disburse x tokenOut net recipient) := by
  unfold disburse
  split
  · rename_i eth
    rw [eth, resolveToken_sentinel] at distinct
    exact Within.ite (Within.bind (gated_sendETH distinct _ _) fun _ => Within.pure _)
      (Within.pure _)
  · rename_i erc20
    apply Within.bind (Within.reads _)
    intro prevBalance
    have rest : Within (Keeping x token) (do
        let balance ← balanceOf tokenOut recipient
        lift (checkedSub balance prevBalance)) :=
      Within.bind (Within.reads _) fun _ => Within.lift _
    exact Within.ite (Within.bind (gated_payment distinct erc20 _ _) fun _ => rest) rest

theorem gated_skimAndDisburse (distinct : token ≠ resolveToken tokenOut) (delivered : Nat)
    (recipient : Address) (amountOutMin : Nat) :
    Within (Keeping x token) (skimAndDisburse x tokenOut delivered fee recipient amountOutMin) := by
  apply Within.bind (Within.lift _)
  intro feeAmt
  apply Within.bind (Within.lift _)
  intro net
  apply Within.bind (gated_skim distinct _)
  intro _
  apply Within.bind made_beginExecution
  intro _
  apply Within.bind (gated_disburse distinct _ _)
  intro net
  exact Within.bind (Within.require _ _) fun _ => Within.pure _

theorem gated_validateFee : Within (Keeping x token) (validateFee fee) :=
  Within.bind (Within.require _ _) fun _ => Within.require _ _

end Fees

section Split

variable {r : LegRun}

theorem gated_legLoop (legs : List Leg) (delivered fbAmount : Nat) :
    Within (Keeping x token) (legLoop x r legs delivered fbAmount) := by
  induction legs generalizing delivered fbAmount with
  | nil => exact Within.pure _
  | cons leg legs ih =>
      apply Within.ite
      · exact Within.bind (Within.lift _) fun fbAmount => ih delivered fbAmount
      · apply Within.bind (Within.reads _)
        intro prevBal
        apply Within.bind
        · have dispatched : Within (Keeping x.selfCall token) (dispatchLeg x r leg prevBal) :=
            gated_dispatchVenue _ _ _ _ _ _ _ _ _
          exact Within.attempt dispatched
        · intro reply
          cases reply with
          | none => exact Within.bind (Within.lift _) fun fbAmount => ih delivered fbAmount
          | some legOut =>
              apply Within.bind (Within.lift _)
              intro delivered
              exact Within.bind (made_emit _) fun _ => ih delivered fbAmount

theorem gated_settleRemainder (delivered fbAmount : Nat) :
    Within (Keeping x token) (settleRemainder x r delivered fbAmount) := by
  apply Within.bind (Within.reads _)
  intro prevBal
  apply Within.bind (gated_swapExactIn _ _ _ _ _ _)
  intro _
  apply Within.bind (Within.reads _)
  intro balance
  apply Within.bind (Within.lift _)
  intro fbOut
  apply Within.bind (Within.require _ _)
  intro _
  apply Within.bind (Within.lift _)
  intro delivered
  exact Within.bind (made_emit _) fun _ => Within.pure _

theorem gated_executeLegs (distinct : token ≠ resolveToken r.tokenOut) (legs : List Leg) :
    Within (Keeping x token) (executeLegs x r legs) := by
  have finish : ∀ delivered, Within (Keeping x token) (do
      require (delivered ≥ r.amountOutMin) (.insufficientOutput r.amountOutMin delivered)
      forwardETH x r.tokenOut r.payTo delivered
      return delivered) := by
    intro delivered
    apply Within.bind (Within.require _ _)
    intro _
    exact Within.bind (gated_forwardETH distinct _ _) fun _ => Within.pure _
  apply Within.bind (Within.lift _)
  intro allocated
  apply Within.bind (Within.require _ _)
  intro _
  apply Within.bind (Within.require _ _)
  intro _
  apply Within.bind made_beginExecution
  intro _
  apply Within.bind (gated_legLoop _ _ _)
  intro p
  exact Within.ite (Within.bind (gated_settleRemainder _ _) finish)
    (Within.bind (Within.pure _) finish)

/-- Funds are pulled onto the router itself, once the tokens are told apart. -/
theorem gated_splitSwap {a : SwapArgs} (venueSet : List Address) (amountOutMin : Nat)
    (payTo : Address) :
    Within (Keeping x (resolveToken a.tokenIn)) (splitSwap x venueSet a amountOutMin payTo) := by
  by_cases distinct : resolveToken a.tokenIn ≠ resolveToken a.tokenOut
  · apply Within.bind
    · apply Within.bind (Within.require _ _)
      intro _
      apply Within.ite
      · apply Within.bind (Within.require _ _)
        intro _
        apply Within.bind
        · exact gated_call trivial
        intro _
        exact Within.pure _
      · apply Within.bind (Within.require _ _)
        intro _
        apply Within.bind
        · exact gated_call fun _ => .inr rfl
        intro _
        exact Within.pure _
    · intro p
      apply Within.bind (within_planSplit (quoteFrame x _) _ _ _ _)
      intro legs
      exact gated_executeLegs distinct legs
  · intro s
    simp only [splitSwap, pullSplitFunds, wp_bind, wp_require]
    exact ⟨fun apart => absurd apart distinct, fun _ => Frame.refl s⟩

end Split

section Entrypoints

variable {a : SwapArgs} {fee : FrontendFee}

theorem gated_executeSwap (venue : Address) :
    Within (Keeping x (resolveToken a.tokenIn)) (executeSwap x venue a) := by
  apply Within.bind (gated_coreSwap venue)
  intro r
  exact Within.bind (made_emit _) fun _ => Within.pure _

theorem gated_executeSwapWithFee (venue : Address) (grossMin : Nat) :
    Within (Keeping x (resolveToken a.tokenIn)) (executeSwapWithFee x venue a grossMin fee) := by
  have swapped :=
    gated_coreSwap (x := x) (a := { a with amountOutMin := grossMin, recipient := x.self }) venue
  apply Within.bind_of (Q := fun _ => resolveToken a.tokenIn ≠ resolveToken a.tokenOut) swapped
  · intro s
    exact ensures_coreSwap.mono fun _ _ h => h.1.distinct
  · intro r distinct
    apply Within.bind (gated_skimAndDisburse distinct _ _ _)
    intro amountOut
    exact Within.bind (made_emit _) fun _ => Within.pure _

theorem gated_guarded {α : Type} {body : Ctx → RouterM α}
    (h : Within (Keeping x token) (body x.enter)) : Within (Keeping x token) (guarded x body) := by
  apply Within.bind (Within.require _ _)
  intro _
  exact Within.bind (Within.require _ _) fun _ => h

theorem gated_validateSplitParams (amountIn : Nat) :
    Within (Keeping x token) (validateSplitParams amountIn) :=
  Within.bind (Within.require _ _) fun _ => Within.require _ _

theorem gated_collectVenues : Within (Keeping x token) (collectVenues x) :=
  Within.bind (Within.require _ _) fun _ => Within.pure _

theorem gated_swapSplitV1 (a : SwapArgs) :
    Within (Keeping x (resolveToken a.tokenIn)) (swapSplitV1 x a) := by
  apply gated_guarded
  apply Within.bind (Within.require _ _)
  intro _
  apply Within.bind (gated_validateSplitParams _)
  intro _
  apply Within.bind gated_collectVenues
  intro venueSet
  exact gated_splitSwap (x := x.enter) venueSet _ _

theorem gated_swapSplitWithFeeV1 (a : SwapArgs) (fee : FrontendFee) :
    Within (Keeping x (resolveToken a.tokenIn)) (swapSplitWithFeeV1 x a fee) := by
  apply gated_guarded
  apply Within.bind gated_validateFee
  intro _
  apply Within.bind (Within.require _ _)
  intro _
  apply Within.bind (gated_validateSplitParams _)
  intro _
  apply Within.bind gated_collectVenues
  intro venueSet
  apply Within.bind (Within.lift _)
  intro grossMin
  -- The proceeds are paid out only after the split has told the tokens apart.
  apply Within.bind_of (Q := fun _ => resolveToken a.tokenIn ≠ resolveToken a.tokenOut)
  · exact gated_splitSwap (x := x.enter) venueSet _ _
  · intro s
    rw [splitSwap, Ensures, wp_bind]
    apply ensures_pullSplitFunds.mono
    rintro p s₁ ⟨_, distinct, _⟩
    exact ensures_of distinct
  · intro delivered distinct
    exact gated_skimAndDisburse (x := x.enter) distinct _ _ _

theorem gated_run (call : SwapCall) :
    Within (Keeping x (resolveToken call.args.tokenIn)) (call.run x) := by
  have quotes := quoteFrame x.enter (resolveToken call.args.tokenIn)
  cases call with
  | swapV1 a =>
      apply Within.map
      apply gated_guarded
      apply Within.bind (within_pickBestPropAMM quotes _ _ _)
      intro best
      exact gated_executeSwap (x := x.enter) _
  | swapWithFeeV1 a fee =>
      apply Within.map
      apply gated_guarded
      apply Within.bind gated_validateFee
      intro _
      apply Within.bind (Within.lift _)
      intro grossMin
      apply Within.bind (within_pickBestPropAMM quotes _ _ _)
      intro best
      exact gated_executeSwapWithFee (x := x.enter) _ _
  | swapViaVenueV1 venue a =>
      apply Within.map
      apply gated_guarded
      apply Within.bind (Within.require _ _)
      intro _
      exact gated_executeSwap (x := x.enter) _
  | swapViaVenueWithFeeV1 venue a fee =>
      rw [SwapCall.run]
      apply gated_guarded
      apply Within.bind gated_validateFee
      intro _
      apply Within.bind (Within.require _ _)
      intro _
      apply Within.bind (Within.lift _)
      intro grossMin
      exact Within.bind (gated_executeSwapWithFee (x := x.enter) _ _) fun _ => Within.pure _
  | swapViaSelectedVenuesV1 venues a =>
      apply Within.map
      apply gated_guarded
      apply Within.bind (within_pickBestVenueFrom quotes _ _ _ _)
      intro best
      exact gated_executeSwap (x := x.enter) _
  | swapViaSelectedVenuesWithFeeV1 venues a fee =>
      apply Within.map
      apply gated_guarded
      apply Within.bind gated_validateFee
      intro _
      apply Within.bind (Within.lift _)
      intro grossMin
      apply Within.bind (within_pickBestVenueFrom quotes _ _ _ _)
      intro best
      exact gated_executeSwapWithFee (x := x.enter) _ _
  | swapSplitV1 a => exact gated_swapSplitV1 a
  | swapSplitWithFeeV1 a fee => exact gated_swapSplitWithFeeV1 a fee

end Entrypoints

end Gated

end PropAMM
