import PropAMM.Router.Reverts

/-! # Pausing

The paused flag is apart from the rest of the configuration. Over any history it is what
the last pause or unpause aimed at, the rest of the storage is what the other operations
leave, the router refuses swaps exactly while it is set, and quotes do not see it.
-/

namespace PropAMM

open Txn FrontendFees

/-- The storage with the flag set or cleared. -/
def RouterStorage.withPaused (st : RouterStorage) (paused : Bool) : RouterStorage :=
  { st with paused }

@[simp] theorem RouterStorage.withPaused_paused (st : RouterStorage) (b : Bool) :
    (st.withPaused b).paused = b := rfl

@[simp] theorem RouterStorage.withPaused_withPaused (st : RouterStorage) (b b' : Bool) :
    (st.withPaused b).withPaused b' = st.withPaused b' := rfl

theorem RouterStorage.withPaused_self (st : RouterStorage) : st.withPaused st.paused = st := rfl

/-- What `pause` and `unpause` aim at. -/
def AdminCall.switch? : AdminCall → Option Bool
  | pause _ => some true
  | unpause _ => some false
  | _ => none

namespace Op

def switch? : Op → Option Bool
  | admin c => c.switch?
  | refused _ | user _ => none

/-- Neither a pause nor an unpause that takes effect. -/
def configures (op : Op) : Bool := op.switch?.isNone

end Op

section Steps

variable {st : RouterStorage}

theorem setPairFeeUnchecked_withPaused (tokenA tokenB : Address) (fee : Nat) (b : Bool) :
    setPairFeeUnchecked (st.withPaused b) tokenA tokenB fee =
      (setPairFeeUnchecked st tokenA tokenB fee).map fun r => (r.1.withPaused b, r.2) := by
  unfold setPairFeeUnchecked
  split <;> rfl

theorem setPairFeesLoop_withPaused (entries : List ((Address × Address) × Nat)) (b : Bool) :
    setPairFeesLoop (st.withPaused b) entries =
      (setPairFeesLoop st entries).map fun r => (r.1.withPaused b, r.2) := by
  induction entries generalizing st with
  | nil => rfl
  | cons entry rest ih =>
      unfold setPairFeesLoop
      rw [setPairFeeUnchecked_withPaused]
      cases setPairFeeUnchecked st entry.1.1 entry.1.2 entry.2 with
      | error e => rfl
      | ok first =>
          show (do let r ← setPairFeesLoop (first.1.withPaused b) rest; _ : Mutation) = _
          rw [ih]
          cases h : setPairFeesLoop first.1 rest with
          | error e => simp [Except.map, bind, Except.bind, h]
          | ok second => simp [Except.map, bind, Except.bind, h, pure, Except.pure]

/-- An operation that is not a switch neither reads nor writes the flag. -/
theorem apply_withPaused {c : AdminCall} (other : c.switch? = none) (b : Bool) :
    c.apply (st.withPaused b) = (c.apply st).map fun r => (r.1.withPaused b, r.2) := by
  cases c with
  | addVenue venue =>
      simp only [AdminCall.apply, addVenue, RouterStorage.withPaused]
      split
      · rfl
      · cases st.whitelistedVenues.add venue <;> rfl
  | removeVenue venue =>
      simp only [AdminCall.apply, removeVenue, RouterStorage.withPaused]
      cases st.whitelistedVenues.remove venue <;> rfl
  | setFallbackSwapRouter newRouter =>
      simp only [AdminCall.apply, setFallbackSwapRouter]
      split <;> rfl
  | setFallbackQuoter newQuoter =>
      simp only [AdminCall.apply, setFallbackQuoter]
      split <;> rfl
  | setFallbackFee fee =>
      simp only [AdminCall.apply, setFallbackFee]
      split <;> rfl
  | setPairFee tokenA tokenB fee => exact setPairFeeUnchecked_withPaused tokenA tokenB fee b
  | setPairFees tokenA tokenB fees =>
      simp only [AdminCall.apply, setPairFees]
      split
      · exact setPairFeesLoop_withPaused _ b
      · rfl
  | pause account => cases other
  | unpause account => cases other

theorem run_withPaused {c : AdminCall} (other : c.switch? = none) (b : Bool) :
    c.run (st.withPaused b) = (c.run st).withPaused b := by
  unfold AdminCall.run
  rw [apply_withPaused other]
  cases c.apply st <;> rfl

/-- A switch leaves the flag as it aims at, whether or not it was so before. -/
theorem run_switch {c : AdminCall} {b : Bool} (switches : c.switch? = some b) :
    c.run st = st.withPaused b := by
  cases c with
  | pause account =>
      cases switches
      simp only [AdminCall.run, AdminCall.apply, pause]
      cases paused : st.paused with
      | true =>
          rw [if_pos rfl, ← paused]
          exact st.withPaused_self.symm
      | false => rfl
  | unpause account =>
      cases switches
      simp only [AdminCall.run, AdminCall.apply, unpause]
      cases paused : st.paused with
      | false =>
          rw [if_neg Bool.false_ne_true, ← paused]
          exact st.withPaused_self.symm
      | true => rfl
  | _ => cases switches

/-- One operation on the flag and on the rest. -/
theorem next_withPaused (op : Op) (b : Bool) :
    op.next (st.withPaused b) =
      (if op.configures then op.next st else st).withPaused (op.switch?.getD b) := by
  cases op with
  | refused c => rfl
  | user o => rfl
  | admin c =>
      cases switches : c.switch? with
      | none =>
          have kept : (Op.admin c).configures = true := by
            rw [Op.configures, Op.switch?, switches]; rfl
          have aim : (Op.admin c).switch? = none := switches
          rw [if_pos kept, aim]
          exact run_withPaused switches b
      | some b' =>
          have kept : (Op.admin c).configures = false := by
            rw [Op.configures, Op.switch?, switches]; rfl
          have aim : (Op.admin c).switch? = some b' := switches
          rw [kept, aim]
          exact run_switch switches

/-- Over a history the flag is what the last switch aimed at, and the rest of the storage is
    what the history without its switches leaves. -/
theorem after_withPaused (history : List Op) (b : Bool) :
    (st.withPaused b).after history =
      (st.after (history.filter Op.configures)).withPaused
        ((history.filterMap Op.switch?).getLast?.getD b) := by
  induction history generalizing st b with
  | nil => rfl
  | cons op history ih =>
      have step : (st.withPaused b).after (op :: history) = (op.next (st.withPaused b)).after
        history := rfl
      rw [step, next_withPaused, ih]
      cases switches : op.switch? with
      | none =>
          have kept : op.configures = true := by rw [Op.configures, switches]; rfl
          rw [if_pos kept, List.filter_cons_of_pos kept, List.filterMap_cons_none switches]
          rfl
      | some b' =>
          have kept : op.configures = false := by rw [Op.configures, switches]; rfl
          rw [kept, List.filter_cons_of_neg (by simp [kept]), List.filterMap_cons_some switches,
            List.getLast?_cons]
          rfl

end Steps

/-! ## Quotes do not see the flag -/

/-- The frame of the same call on a router whose flag is `b`. -/
def Ctx.withPaused (x : Ctx) (b : Bool) : Ctx := { x with storage := x.storage.withPaused b }

section Quotes

variable (x : Ctx) (b : Bool) (tokenIn tokenOut : Address) (amount : Nat)

theorem pickBestPropAMM_withPaused :
    pickBestPropAMM (x.withPaused b) tokenIn tokenOut amount = pickBestPropAMM x tokenIn
      tokenOut amount := by
  have loops : ∀ (rest : List Address) (best : Nat × Address),
      pickBestPropAMMLoop (x.withPaused b) tokenIn tokenOut amount rest best
        = pickBestPropAMMLoop x tokenIn tokenOut amount rest best := by
    intro rest
    induction rest with
    | nil => exact fun _ => rfl
    | cons candidate rest ih =>
        intro best
        simp only [pickBestPropAMMLoop, ih]
        rfl
  exact loops _ _

theorem pickBestVenue_withPaused :
    pickBestVenue (x.withPaused b) tokenIn tokenOut amount = pickBestVenue x tokenIn
      tokenOut amount := by
  unfold pickBestVenue
  rw [pickBestPropAMM_withPaused]
  rfl

theorem pickBestVenueFrom_withPaused (venues : List Address) :
    pickBestVenueFrom (x.withPaused b) venues tokenIn tokenOut amount
      = pickBestVenueFrom x venues tokenIn tokenOut amount := by
  have loops : ∀ best : Nat × Address,
      pickBestVenueFromLoop (x.withPaused b) tokenIn tokenOut amount venues best
        = pickBestVenueFromLoop x tokenIn tokenOut amount venues best := by
    induction venues with
    | nil => exact fun _ => rfl
    | cons venue rest ih =>
        intro best
        simp only [pickBestVenueFromLoop, ih]
        rfl
  exact loops _

/-- Whatever is not a swap runs as if the flag were not there. -/
theorem run_withPaused_quote {call : UserCall} (quoting : ∀ c, call ≠ .swap c) :
    call.run (x.withPaused b) = call.run x := by
  cases call with
  | quoteV1 tokenIn tokenOut amount =>
      simp only [UserCall.run, quoteV1, pickBestVenue_withPaused]
  | quoteSelectedVenuesV1 venues tokenIn tokenOut amountIn =>
      simp only [UserCall.run, quoteSelectedVenuesV1, pickBestVenueFrom_withPaused]
  | quoteVenueV1 venue tokenIn tokenOut amount => rfl
  | quoteVenueUnchecked venue tokenIn tokenOut amount => rfl
  | quoteFillableUnchecked venue tokenIn_ tokenOut_ amountIn => rfl
  | dispatchVenue => rfl
  | swap c => exact absurd rfl (quoting c)

end Quotes

/-- Swaps stop at the flag before they touch anything. -/
theorem run_paused {x : Ctx} (paused : x.storage.paused = true) (call : SwapCall) (s : ChainState) :
    call.run x s = .error .enforcedPause s := by
  have stops : ∀ {α : Type} (body : Ctx → RouterM α), guarded x body s =
      .error .enforcedPause s := by
    intro α body
    have halted : ¬ x.storage.paused = false := by rw [paused]; exact Bool.noConfusion
    have refused : require (x.storage.paused = false) .enforcedPause s
        = (.error .enforcedPause s : EStateM.Result RouterError ChainState PUnit) := by
      rw [require, if_neg halted]
      rfl
    show EStateM.bind _ _ s = _
    rw [EStateM.bind, refused]
  have mapped : ∀ (body : Ctx → RouterM (Nat × Address)),
      (Prod.fst <$> guarded x body : RouterM Nat) s = .error .enforcedPause s := by
    intro body
    show EStateM.map _ _ s = _
    rw [EStateM.map, stops]
  cases call with
  | swapV1 a => exact mapped _
  | swapWithFeeV1 a fee => exact mapped _
  | swapViaVenueV1 venue a => exact mapped _
  | swapViaVenueWithFeeV1 venue a fee =>
      rw [SwapCall.run]
      exact stops _
  | swapViaSelectedVenuesV1 venues a => exact mapped _
  | swapViaSelectedVenuesWithFeeV1 venues a fee => exact mapped _
  | swapSplitV1 a =>
      rw [SwapCall.run]
      exact stops _
  | swapSplitWithFeeV1 a fee =>
      rw [SwapCall.run]
      exact stops _

/-- Pausing is contained. After any history the router is paused exactly if its last switch
    was a pause; the rest of its storage is what the history without its switches leaves; the
    router itself refuses a swap with `EnforcedPause`, before it touches anything, exactly
    while it is paused; and every other call runs as it would without the switches. -/
theorem pausing_contained (self : Address) (st : RouterStorage) (history : List Op) :
    let paused := (history.filterMap Op.switch?).getLast?.getD st.paused
    st.after history = (st.after (history.filter Op.configures)).withPaused paused ∧
    ∀ o : UserOp,
      (∀ call, o.call = .swap call →
        (o.call.run (o.ctx self (st.after history)) o.start = .error .enforcedPause o.start ↔
          paused = true)) ∧
      ((∀ call, o.call ≠ .swap call) → o.call.run (o.ctx self (st.after history)) o.start
        = o.call.run (o.ctx self (st.after (history.filter Op.configures))) o.start) := by
  intro paused
  have shape : (st.withPaused st.paused).after history
      = (st.after (history.filter Op.configures)).withPaused paused :=
        after_withPaused history st.paused
  rw [st.withPaused_self] at shape
  refine ⟨shape, ?_⟩
  intro o
  have flag : (o.ctx self (st.after history)).storage.paused = paused :=
    congrArg RouterStorage.paused shape
  constructor
  · intro call swaps
    rw [swaps]
    constructor
    · intro run
      have explained : call.Explains (o.ctx self (st.after history)) .enforcedPause :=
        (excused_run _ call).ne run
      exact flag ▸ explained
    · intro halted
      exact run_paused (flag.trans halted) call o.start
  · intro quoting
    have frames : o.ctx self (st.after history)
        = (o.ctx self (st.after (history.filter Op.configures))).withPaused paused := by
      unfold UserOp.ctx Ctx.withPaused
      rw [shape]
    rw [frames, run_withPaused_quote _ _ quoting]

end PropAMM
