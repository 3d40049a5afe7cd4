import PropAMM.Router.Entrypoints

/-! # What the quote phase keeps

Quoting and planning make no call but quote calls to listed venues and to the
fallback quoter. Every frame those calls keep is therefore kept by the whole
phase, reverted or not. Funds, logs and call traces are all framed this way. What
the parts of a program may revert with is composed likewise.
-/

namespace PropAMM

open Txn

/-- The calls in `A` keep `R`, whether the callee accepts or refuses. -/
structure CallFrame (x : Ctx) (R : ChainState → ChainState → Prop) (A : ExtCall → Prop) : Prop where
  recorded : ∀ s c, A c → R s (s.recorded c)
  called : ∀ s c ret L, A c → Accepts x c s ret L → R s (s.called c L)

/-- The calls a quote may make. -/
def QuoteAllowed (st : RouterStorage) : ExtCall → Prop
  | .quote venue _ _ _ | .quoteFillable venue _ _ _ | .supportsInterface venue => st.isVenue venue
  | .quoteExactInputSingle quoter _ _ _ _ => quoter = st.fallbackQuoter
  | _ => False

section Frames

variable {x : Ctx} {R : ChainState → ChainState → Prop} {A : ExtCall → Prop}

theorem CallFrame.selfCall (F : CallFrame x R A) : CallFrame x.selfCall R A :=
  ⟨F.recorded, fun s c ret L allowed accepted => F.called s c ret L allowed
    (accepts_selfCall.mp accepted)⟩

theorem CallFrame.enter (F : CallFrame x R A) : CallFrame x.enter R A :=
  ⟨F.recorded, fun s c ret L allowed accepted => F.called s c ret L allowed
    (accepts_enter.mp accepted)⟩

theorem CallFrame.mono {B : ExtCall → Prop} (F : CallFrame x R A) (h : ∀ c, B c → A c) :
    CallFrame x R B :=
  ⟨fun s c allowed => F.recorded s c (h c allowed),
    fun s c ret L allowed => F.called s c ret L (h c allowed)⟩

theorem within_callExternal (F : CallFrame x R A) {c : ExtCall} (allowed : A c) :
    Within R (callExternal x c) := by
  intro s
  apply wp_callExternal
  · intro ret L accepted
    exact F.called s c ret L allowed accepted
  · exact F.recorded s c allowed

variable [Frame R]

theorem within_decode {α : Type} (r : Option α) : Within R (decode r) := by
  cases r with
  | none => exact Within.throw _
  | some a => exact Within.pure a

variable (F : CallFrame x R (QuoteAllowed x.storage))

include F

theorem within_quoteVenue {venue : Address} (listed : x.storage.isVenue venue)
    (tokenIn tokenOut : Address) (amount : Nat) :
    Within R (quoteVenue x venue tokenIn tokenOut amount) := by
  unfold quoteVenue UniV3Router.quoteExactIn
  apply Within.ite
  · exact Within.bind (within_callExternal F rfl) fun _ => within_decode _
  · exact Within.bind (within_callExternal F listed) fun _ => within_decode _

theorem within_quoteVenueUnchecked {venue : Address} (listed : x.storage.isVenue venue)
    (tokenIn tokenOut : Address) (amount : Nat) :
    Within R (quoteVenueUnchecked x venue tokenIn tokenOut amount) :=
  Within.bind (Within.require _ _) fun _ => within_quoteVenue F listed tokenIn tokenOut amount

theorem within_quoteVenueV1 (venue tokenIn tokenOut : Address) (amount : Nat) :
    Within R (quoteVenueV1 x venue tokenIn tokenOut amount) := by
  intro s
  -- The gate decides whether the venue is called at all.
  by_cases listed : x.storage.isVenue venue
  · exact Within.bind (Within.require _ _)
      (fun _ => Within.bind (within_quoteVenue F listed tokenIn tokenOut amount) fun _ =>
        Within.pure _) s
  · simp only [quoteVenueV1, wp_bind, wp_require, listed, false_imp_iff, not_false_eq_true,
      true_imp_iff, true_and]
    exact Frame.refl s

theorem within_pickBestPropAMMLoop (tokenIn tokenOut : Address) (amount : Nat) (rest : List Address)
    (listed : ∀ v ∈ rest, x.storage.isVenue v) (best : Nat × Address) :
    Within R (pickBestPropAMMLoop x tokenIn tokenOut amount rest best) := by
  induction rest generalizing best with
  | nil => exact Within.pure best
  | cons candidate rest ih =>
      have later := ih (fun v member => listed v (List.mem_cons_of_mem _ member))
      apply Within.bind
      · exact Within.attempt
          (within_quoteVenueUnchecked F.selfCall (listed candidate (by simp)) _ _ _)
      · intro reply
        cases reply with
        | none => exact later best
        | some amountOut => exact later _

theorem within_pickBestPropAMM (tokenIn tokenOut : Address) (amount : Nat) :
    Within R (pickBestPropAMM x tokenIn tokenOut amount) :=
  within_pickBestPropAMMLoop F tokenIn tokenOut amount _ (fun _ member => .inl member) _

theorem within_pickBestVenue (tokenIn tokenOut : Address) (amount : Nat) :
    Within R (pickBestVenue x tokenIn tokenOut amount) := by
  apply Within.bind (within_pickBestPropAMM F tokenIn tokenOut amount)
  intro best
  apply Within.bind
  · exact Within.attempt (within_quoteVenueUnchecked F.selfCall (.inr rfl) _ _ _)
  · intro reply
    cases reply with
    | none => exact Within.pure _
    | some amountOut => exact Within.pure _

theorem within_pickBestVenueFrom (venues : List Address) (tokenIn tokenOut : Address)
    (amount : Nat) : Within R (pickBestVenueFrom x venues tokenIn tokenOut amount) := by
  unfold pickBestVenueFrom
  generalize ((0, 0) : Nat × Address) = best
  induction venues generalizing best with
  | nil => exact Within.pure best
  | cons venue rest ih =>
      apply Within.bind
      · exact Within.attempt (within_quoteVenueV1 F.selfCall venue _ _ _)
      · intro reply
        cases reply with
        | none => exact ih best
        | some quoted => exact ih _

/-! ## Planning -/

theorem within_tryQuote (venue tokenIn_ tokenOut_ : Address) (amount : Nat) :
    Within R (tryQuote x venue tokenIn_ tokenOut_ amount) := by
  apply Within.bind
  · exact Within.attempt (within_quoteVenueV1 F.selfCall venue _ _ _)
  · intro reply
    cases reply with
    | none => exact Within.pure _
    | some quoted => exact Within.pure _

theorem within_probeDownLoop (venue tokenIn_ tokenOut_ : Address) (ceiling steps size : Nat) :
    Within R (probeDownLoop x venue tokenIn_ tokenOut_ ceiling steps size) := by
  induction steps generalizing size with
  | zero => exact Within.pure _
  | succ steps ih =>
      apply Within.ite (Within.pure _)
      apply Within.bind (within_tryQuote F venue _ _ _)
      intro outAt
      exact Within.ite (Within.pure _) (Within.ite (Within.pure _) (ih _))

theorem within_probeBlind (venue tokenIn_ tokenOut_ : Address) (amountIn : Nat) :
    Within R (probeBlind x venue tokenIn_ tokenOut_ amountIn) := by
  apply Within.bind (within_tryQuote F venue _ _ _)
  intro outFull
  apply Within.ite (Within.pure _)
  apply Within.bind (within_tryQuote F venue _ _ _)
  intro outHalf
  refine Within.ite (Within.pure _) (Within.ite (Within.pure _) (Within.ite (Within.pure _) ?_))
  apply Within.ite (within_probeDownLoop F venue _ _ _ _ _)
  exact Within.bind (Within.lift _) fun _ => Within.ite (Within.pure _) (Within.pure _)

omit [Frame R] in
theorem within_supportsInterface {venue : Address} (listed : x.storage.isVenue venue) :
    Within R (supportsInterface x venue) :=
  fun s => wp_supportsInterface fun _ => F.recorded s (.supportsInterface venue) listed

theorem within_probeVenue (venue tokenIn_ tokenOut_ : Address) (amountIn : Nat) :
    Within R (probeVenue x venue tokenIn_ tokenOut_ amountIn) := by
  unfold probeVenue
  by_cases listed : x.storage.isVenue venue
  · rw [if_neg (not_not_intro listed)]
    apply Within.bind (within_supportsInterface F listed)
    intro supported
    apply Within.ite _ (within_probeBlind F venue _ _ _)
    apply Within.bind
    · exact Within.attempt (Within.bind (Within.require _ _) fun _ =>
        Within.bind (within_callExternal F.selfCall listed) fun _ => within_decode _)
    · intro reply
      cases reply with
      | none => exact Within.pure _
      | some fillable => exact Within.ite (Within.pure _) (Within.pure _)
  · rw [if_pos listed]
    exact Within.pure _

theorem within_gatherLoop (tokenIn_ tokenOut_ : Address) (amountIn capacity : Nat)
    (seen rest : List Address) (tmp : List Candidate) :
    Within R (gatherLoop x tokenIn_ tokenOut_ amountIn capacity seen rest tmp) := by
  induction rest generalizing seen tmp with
  | nil => exact Within.pure tmp
  | cons venue rest ih =>
      apply Within.ite (ih _ _)
      apply Within.bind (within_probeVenue F venue _ _ _)
      intro probed
      apply Within.ite (ih _ _)
      exact Within.bind (Within.lift _) fun tmp => ih _ tmp

theorem within_cutoff (tokenIn_ tokenOut_ : Address) (c : Candidate) (w : Waterfall) :
    Within R (cutoff x tokenIn_ tokenOut_ c w) := by
  apply Within.bind (Within.lift _)
  intro lost
  apply Within.ite _ (Within.pure _)
  apply Within.ite (Within.pure _)
  apply Within.bind
  · exact Within.bind (within_tryQuote F _ _ _ _) fun newOut => Within.ite (Within.pure _)
      (Within.pure _)
  · intro w
    exact Within.bind (Within.lift _) fun lost => Within.ite (Within.pure _) (Within.pure _)

theorem within_waterfallLoop (tokenIn_ tokenOut_ : Address) (capacity : Nat) (rest : List Candidate)
    (w : Waterfall) : Within R (waterfallLoop x tokenIn_ tokenOut_ capacity rest w) := by
  induction rest generalizing w with
  | nil => exact Within.pure w
  | cons c rest ih =>
      apply Within.ite _ (Within.pure _)
      apply Within.bind (within_cutoff F tokenIn_ tokenOut_ c w)
      intro verdict
      cases verdict with
      | none => exact Within.pure _
      | some w => exact Within.bind (Within.lift _) fun w => ih w

theorem within_waterfall (cands : List Candidate) (tokenIn_ tokenOut_ : Address) (amountIn : Nat) :
    Within R (waterfall x cands tokenIn_ tokenOut_ amountIn) := by
  apply Within.ite (Within.pure _)
  apply Within.bind (within_tryQuote F _ _ _ _)
  intro refOut
  apply Within.bind (within_waterfallLoop F _ _ _ _ _)
  intro w
  exact Within.ite (Within.lift _) (Within.pure _)

theorem within_planLegs (venueSet : List Address) (tokenIn_ tokenOut_ : Address) (amountIn : Nat) :
    Within R (planLegs x venueSet tokenIn_ tokenOut_ amountIn) := by
  apply Within.bind (within_gatherLoop F _ _ _ _ _ _ _)
  intro cands
  exact Within.bind (Within.lift _) fun sorted => within_waterfall F sorted _ _ _

theorem within_planSplit (venueSet : List Address) (tokenIn_ tokenOut_ : Address) (amountIn : Nat) :
    Within R (planSplit x venueSet tokenIn_ tokenOut_ amountIn) := by
  apply Within.bind (Within.reads _)
  intro snap
  apply Within.bind (within_planLegs F _ _ _ _)
  intro legs
  apply Within.bind (Within.reads _)
  intro balance
  exact Within.bind (Within.require _ _) fun _ => Within.pure _

end Frames

/-! ## The errors of the parts -/

section Errors

variable {x : Ctx} {A : RouterError → Prop}

theorem excused_call (external : A .external) (c : ExtCall) : Raises A (callExternal x c) :=
  fun _ => wp_callExternal (fun _ _ _ => trivial) external

theorem excused_decode (external : A .external) {α : Type} (r : Option α) :
    Raises A (decode r) := by
  cases r with
  | none => exact Raises.throw external
  | some r => exact Raises.pure r

theorem excused_add (overflow : A (.panicked 0x11)) (m n : Nat) :
    Raises A (lift (checkedAdd m n) : RouterM Nat) := by
  intro s
  rw [wp_checkedAdd]
  exact ⟨fun _ => trivial, fun _ => overflow⟩

theorem excused_sub (overflow : A (.panicked 0x11)) (m n : Nat) :
    Raises A (lift (checkedSub m n) : RouterM Nat) := by
  intro s
  rw [wp_checkedSub]
  exact ⟨fun _ => trivial, fun _ => overflow⟩

theorem excused_emit (e : Event) : Raises A (emit e) := fun _ => trivial

theorem excused_sendETH (unpaid : A .ethTransferFailed) (target : Address) (amount : Nat) :
    Raises A (sendETH x target amount) := by
  apply Raises.bind
  · apply Raises.bind Raises.attempt
    intro reply
    cases reply with
    | none => exact Raises.pure _
    | some ret => exact Raises.pure _
  · intro ok
    exact Raises.require unpaid

theorem excused_forwardETH (external : A .external) {tokenOut : Address}
    (unpaid : tokenOut = ethSentinel → A .ethTransferFailed) (target : Address) (amount : Nat) :
    Raises A (forwardETH x tokenOut target amount) := by
  unfold forwardETH
  split
  · rename_i eth
    apply Raises.bind (excused_call external _)
    intro _
    exact Raises.ite (excused_sendETH (unpaid eth) _ _) (Raises.pure _)
  · exact Raises.pure _

theorem excused_swapExactIn (external : A .external) (tokenIn tokenOut : Address)
    (fee amountIn amountOutMinimum : Nat) (recipient swapRouter : Address) : Raises A
      (UniV3Router.swapExactIn x tokenIn tokenOut fee amountIn amountOutMinimum recipient
        swapRouter) := by
  apply Raises.bind (excused_call external _)
  intro _
  apply Raises.bind (excused_call external _)
  intro ret
  apply Raises.bind (excused_decode external _)
  intro amountOut
  exact Raises.bind (excused_call external _) fun _ => Raises.pure _

theorem excused_legLoop (overflow : A (.panicked 0x11)) (r : LegRun) (legs : List Leg)
    (delivered fbAmount : Nat) : Raises A (legLoop x r legs delivered fbAmount) := by
  induction legs generalizing delivered fbAmount with
  | nil => exact Raises.pure _
  | cons leg legs ih =>
      refine Raises.ite (Raises.bind (excused_add overflow _ _) fun _ => ih _ _) ?_
      apply Raises.bind (Raises.reads _)
      intro prevBal
      apply Raises.bind Raises.attempt
      intro reply
      cases reply with
      | none => exact Raises.bind (excused_add overflow _ _) fun _ => ih _ _
      | some legOut =>
          apply Raises.bind (excused_add overflow _ _)
          intro delivered
          exact Raises.bind (excused_emit _) fun _ => ih _ _

end Errors

end PropAMM
