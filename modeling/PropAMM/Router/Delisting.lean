import PropAMM.Router.Deployment
import PropAMM.Router.Gating
import PropAMM.Router.Slippage

/-! # De-listing

Administrative calls and calls of users follow each other in any order. A venue
that has been removed, is not the fallback and is not listed again is called by
no user call that comes after, whatever venues the user names.
-/

namespace PropAMM

open Txn FrontendFees

/-! ## Calls of users -/

inductive UserCall where
  | quoteV1 (tokenIn tokenOut : Address) (amount : Nat)
  | quoteVenueV1 (venue tokenIn tokenOut : Address) (amount : Nat)
  | quoteSelectedVenuesV1 (venues : List Address) (tokenIn tokenOut : Address) (amountIn : Nat)
  /-- Self-only, as the next two. -/
  | quoteVenueUnchecked (venue tokenIn tokenOut : Address) (amount : Nat)
  | quoteFillableUnchecked (venue tokenIn_ tokenOut_ : Address) (amountIn : Nat)
  | dispatchVenue (venue tokenIn tokenOut : Address) (amountIn amountOutMin : Nat)
      (payer recipient : Address) (deadline prevTokenOutBalance : Nat)
  | swap (call : SwapCall)

namespace UserCall

def tokenIn : UserCall → Address
  | quoteV1 tokenIn _ _ | quoteVenueV1 _ tokenIn _ _ | quoteSelectedVenuesV1 _ tokenIn _ _ =>
      tokenIn
  | quoteVenueUnchecked _ tokenIn _ _ | quoteFillableUnchecked _ tokenIn _ _ => tokenIn
  | dispatchVenue _ tokenIn _ _ _ _ _ _ _ => tokenIn
  | swap call => call.args.tokenIn

/-- Run the entrypoint and return the amount it quotes or delivers. -/
def run (x : Ctx) : UserCall → RouterM Nat
  | quoteV1 tokenIn tokenOut amount => Prod.fst <$> PropAMM.quoteV1 x tokenIn tokenOut amount
  | quoteVenueV1 venue tokenIn tokenOut amount =>
    Prod.fst <$> PropAMM.quoteVenueV1 x venue tokenIn tokenOut amount
  | quoteSelectedVenuesV1 venues tokenIn tokenOut amountIn =>
    Prod.fst <$> PropAMM.quoteSelectedVenuesV1 x venues tokenIn tokenOut amountIn
  | quoteVenueUnchecked venue tokenIn tokenOut amount =>
    PropAMM.quoteVenueUnchecked x venue tokenIn tokenOut amount
  | quoteFillableUnchecked venue tokenIn_ tokenOut_ amountIn =>
    Prod.snd <$> PropAMM.quoteFillableUnchecked x venue tokenIn_ tokenOut_ amountIn
  | dispatchVenue venue tokenIn tokenOut amountIn amountOutMin payer recipient deadline
      prevTokenOutBalance =>
    PropAMM.dispatchVenue x venue tokenIn tokenOut amountIn amountOutMin payer recipient deadline
      prevTokenOutBalance
  | swap call => call.run x

/-- The venue an entrypoint that takes a single one is told to use. -/
def named? : UserCall → Option Address
  | quoteVenueV1 venue _ _ _ => some venue
  | swap (.swapViaVenueV1 venue _) | swap (.swapViaVenueWithFeeV1 venue _ _) => some venue
  | _ => none

/-- What is checked before the venue is. -/
def Admitted (x : Ctx) : UserCall → Prop
  | swap call => x.storage.paused = false ∧ x.entered = false ∧
    ∀ fee, call.fee? = some fee → fee.bps ≤ maxFeeBps ∧ fee.recipient ≠ 0
  | _ => True

end UserCall

theorem gated_userCall {x : Ctx} (outside : x.sender ≠ x.self) (call : UserCall) :
    Within (Keeping x (resolveToken call.tokenIn)) (call.run x) := by
  have quotes := quoteFrame x (resolveToken call.tokenIn)
  cases call with
  | quoteV1 tokenIn tokenOut amount =>
      apply Within.map
      apply Within.bind (within_pickBestVenue quotes _ _ _)
      intro best
      exact Within.bind (Within.require _ _) fun _ => Within.pure _
  | quoteVenueV1 venue tokenIn tokenOut amount =>
      apply Within.map
      exact within_quoteVenueV1 quotes _ _ _ _
  | quoteSelectedVenuesV1 venues tokenIn tokenOut amountIn =>
      apply Within.map
      apply Within.bind (within_pickBestVenueFrom quotes _ _ _ _)
      intro best
      exact Within.bind (Within.require _ _) fun _ => Within.pure _
  | quoteVenueUnchecked venue tokenIn tokenOut amount =>
      exact Within.gate fun own => absurd own outside
  | quoteFillableUnchecked venue tokenIn_ tokenOut_ amountIn =>
      apply Within.map
      exact Within.gate fun own => absurd own outside
  | dispatchVenue => exact gated_dispatchVenue _ _ _ _ _ _ _ _ _
  | swap call => exact gated_run call

/-- Naming an address that is not a venue reverts at once: at the venue check, unless
    one of the checks before it fails. -/
theorem named_reverts {x : Ctx} {call : UserCall} {v : Address} (named : call.named? = some v)
    (gone : ¬ x.storage.isVenue v) (s : ChainState) :
    ∃ e, call.run x s = .error e s ∧ (call.Admitted x → e = .unknownVenue) := by
  have reverts : wp (call.run x) s (fun _ _ => False)
      (fun e s' => s' = s ∧ (call.Admitted x → e = .unknownVenue)) := by
    cases call with
    | quoteVenueV1 venue tokenIn tokenOut amount =>
        cases named
        simp only [UserCall.run, quoteVenueV1, wp_map, wp_bind, wp_require]
        exact ⟨fun listed => absurd listed gone, fun _ => ⟨trivial, fun _ => trivial⟩⟩
    | swap call =>
        cases call with
        | swapViaVenueV1 venue a =>
            cases named
            simp only [UserCall.run, SwapCall.run, swapViaVenueV1, guarded, wp_map,
              wp_bind, wp_require]
            refine ⟨fun _ => ⟨fun _ => ⟨fun listed => absurd listed gone, fun _ => ?_⟩,
              fun busy => ?_⟩, fun paused => ?_⟩
            · exact ⟨trivial, fun _ => trivial⟩
            · exact ⟨trivial, fun admitted => absurd admitted.2.1 busy⟩
            · exact ⟨trivial, fun admitted => absurd admitted.1 paused⟩
        | swapViaVenueWithFeeV1 venue a fee =>
            cases named
            simp only [UserCall.run, SwapCall.run, swapViaVenueWithFeeV1, validateFee, guarded,
              wp_bind, wp_require]
            refine ⟨fun _ =>
              ⟨fun _ => ⟨fun _ => ⟨fun _ => ⟨fun listed => absurd listed gone, fun _ => ?_⟩,
              fun zero => ?_⟩, fun high => ?_⟩, fun busy => ?_⟩, fun paused => ?_⟩
            · exact ⟨trivial, fun _ => trivial⟩
            · exact ⟨trivial, fun admitted => absurd (admitted.2.2 fee rfl).2 zero⟩
            · exact ⟨trivial, fun admitted => absurd (admitted.2.2 fee rfl).1 high⟩
            · exact ⟨trivial, fun admitted => absurd admitted.2.1 busy⟩
            · exact ⟨trivial, fun admitted => absurd admitted.1 paused⟩
        | _ => cases named
    | _ => cases named
  obtain ⟨e, s', run, rfl, unknown⟩ := exists_error reverts
  exact ⟨e, run, unknown⟩

/-! ## Histories -/

/-- A call of a user, with the world it is made in. -/
structure UserOp where
  env : Env
  sender : Address
  value : Nat
  timestamp : Nat
  entered : Bool
  start : ChainState
  call : UserCall

namespace UserOp

def ctx (o : UserOp) (self : Address) (st : RouterStorage) : Ctx where
  env := o.env
  self := self
  storage := st
  sender := o.sender
  value := o.value
  timestamp := o.timestamp
  entered := o.entered

/-- The calls the router makes, those of reverted frames included, newest first. -/
def made (o : UserOp) (self : Address) (st : RouterStorage) : List ExtCall :=
  let trace := (final (o.call.run (o.ctx self st)) o.start).trace
  trace.take (trace.length - o.start.trace.length)

end UserOp

inductive Op where
  | admin (c : AdminCall)
  /-- Without the role `restricted` asks for. -/
  | refused (c : AdminCall)
  | user (o : UserOp)

namespace Op

/-- The storage the next operation starts with. -/
def next (st : RouterStorage) : Op → RouterStorage
  | admin c => c.run st
  | refused _ | user _ => st

/-- Makes `v` a venue again. -/
def Relists (v : Address) : Op → Prop
  | admin (.addVenue venue) | admin (.setFallbackSwapRouter venue) => venue = v
  | _ => False

end Op

def RouterStorage.after (st : RouterStorage) (history : List Op) : RouterStorage :=
  history.foldl Op.next st

/-- The calls of a user op are gated by the storage it starts with. -/
theorem UserOp.made_gated {o : UserOp} {self : Address} (outside : o.sender ≠ self)
    (st : RouterStorage) : ∀ c ∈ o.made self st, Gated st self (resolveToken o.call.tokenIn) c := by
  obtain ⟨calls, made, allowed⟩ :=
    (gated_userCall (x := o.ctx self st) outside o.call).final o.start
  intro c member
  simp only [UserOp.made] at member
  rw [made, List.length_append, Nat.add_sub_cancel, List.take_left] at member
  exact allowed c member

section Removal

variable {st : RouterStorage} {v : Address}

/-- An operation that does not relist `v` does not make it a venue. -/
theorem isVenue_next {op : Op} (gone : ¬ st.isVenue v) (apart : ¬ op.Relists v) :
    ¬ (op.next st).isVenue v := by
  cases op with
  | refused c => exact gone
  | user o => exact gone
  | admin c =>
      apply c.run_induction (P := fun st => ¬ st.isVenue v) gone
      intro st' events applied
      obtain ⟨venue, venues, rfl, _, added, rfl⟩ | ⟨venue, venues, rfl, removed, rfl⟩ |
        ⟨newRouter, rfl, _, rfl⟩ | ⟨newQuoter, rfl, _, rfl⟩ | ⟨router, _, venues⟩ :=
          apply_cases applied
      · rintro (listed | fallback)
        · rcases (EnumerableSet.mem_add added).mp listed with old | same
          · exact gone (.inl old)
          · exact apart same.symm
        · exact gone (.inr fallback)
      · rintro (listed | fallback)
        · exact gone (.inl ((EnumerableSet.mem_remove removed).mp listed).1)
        · exact gone (.inr fallback)
      · rintro (listed | fallback)
        · exact gone (.inl listed)
        · exact apart fallback.symm
      · exact gone
      · unfold RouterStorage.isVenue RouterStorage.isWhitelistedVenue
        rw [router, venues]
        exact gone

theorem isVenue_after {history : List Op} (gone : ¬ st.isVenue v)
    (apart : ∀ op ∈ history, ¬ op.Relists v) : ¬ (st.after history).isVenue v := by
  induction history generalizing st with
  | nil => exact gone
  | cons op history ih =>
      have next := isVenue_next gone (apart op List.mem_cons_self)
      exact ih next fun op member => apart op (List.mem_cons_of_mem _ member)

/-- Whatever was listed, a removal leaves `v` unlisted. -/
theorem isVenue_removed (other : st.fallbackSwapRouter ≠ v) :
    ¬ ((AdminCall.removeVenue v).run st).isVenue v := by
  simp only [AdminCall.run, AdminCall.apply, removeVenue]
  cases removed : st.whitelistedVenues.remove v with
  | some venues =>
      rintro (listed | fallback)
      · exact ((EnumerableSet.mem_remove removed).mp listed).2 rfl
      · exact other fallback.symm
  | none =>
      rintro (listed | fallback)
      · exact EnumerableSet.not_mem_of_remove_eq_none removed listed
      · exact other fallback.symm

theorem RouterStorage.after_append (history later : List Op) :
    st.after (history ++ later) = (st.after history).after later := by
  simp only [RouterStorage.after, List.foldl_append]

end Removal

namespace ExtCall

/-- The account called as a venue, the fallback router included. -/
def venue? : ExtCall → Option Address
  | quote venue _ _ _ | quoteFillable venue _ _ _ | supportsInterface venue => some venue
  | swap venue _ _ _ _ _ _ | exactInputSingle venue _ _ _ _ _ _ => some venue
  | _ => none

/-- The account that is sent `token`, or may take it; ETH being paid out counts as WETH. -/
def given? (token : Address) : ExtCall → Option Address
  | safeTransfer t target _ | safeTransferFrom t _ target _ | forceApprove t target _ =>
    if t = token then some target else none
  | sendValue target _ => if token = weth then some target else none
  | _ => none

end ExtCall

section Reach

variable {st : RouterStorage} {self token v : Address} {c : ExtCall}

theorem Gated.isVenue (h : Gated st self token c) (called : c.venue? = some v) : st.isVenue v := by
  cases c with
  | quote | quoteFillable | supportsInterface =>
      cases called
      exact h
  | swap =>
      cases called
      exact .inl h
  | exactInputSingle =>
      cases called
      exact .inr h
  | _ => cases called

/-- Besides venues only the router itself is sent any. -/
theorem Gated.given (h : Gated st self token c) (given : c.given? token = some v) :
    st.isVenue v ∨ v = self := by
  cases c with
  | safeTransfer t target amount =>
      obtain ⟨same, here⟩ := Option.ite_none_right_eq_some.mp given
      cases here
      exact .inl (.inl (h same))
  | safeTransferFrom t source target amount =>
      obtain ⟨same, here⟩ := Option.ite_none_right_eq_some.mp given
      cases here
      exact (h same).imp_left .inl
  | forceApprove t spender amount =>
      obtain ⟨_, here⟩ := Option.ite_none_right_eq_some.mp given
      cases here
      exact .inl (.inr h)
  | sendValue target amount =>
      obtain ⟨same, _⟩ := Option.ite_none_right_eq_some.mp given
      exact absurd same h
  | _ => cases given

end Reach

/-- De-listing is effective on every path. Every call a user causes goes to the venues
    of the storage the user's call starts with. Once `v` is removed, is not the fallback
    and is not made a venue again, no user reaches it, and naming it reverts. -/
theorem delisting_effective (self : Address) (st : RouterStorage) (history : List Op) (o : UserOp)
    (outside : o.sender ≠ self) :
    (∀ c ∈ o.made self (st.after history), Gated (st.after history) self
      (resolveToken o.call.tokenIn) c) ∧
    ∀ v before between, history = before ++ .admin (.removeVenue v) :: between →
      (st.after before).fallbackSwapRouter ≠ v → (∀ op ∈ between, ¬ op.Relists v) →
      (∀ c ∈ o.made self (st.after history), c.venue? ≠ some v ∧
        (c.given? (resolveToken o.call.tokenIn) = some v → v = self)) ∧
      (o.call.named? = some v → ∃ e, o.call.run (o.ctx self (st.after history)) o.start =
        .error e o.start ∧
        (o.call.Admitted (o.ctx self (st.after history)) → e = .unknownVenue)) := by
  have gated := o.made_gated outside (st.after history)
  refine ⟨gated, ?_⟩
  intro v before between shape other apart
  have gone : ¬ (st.after history).isVenue v := by
    rw [shape, RouterStorage.after_append]
    have later : ¬ (((AdminCall.removeVenue v).run (st.after before)).after between).isVenue v :=
      isVenue_after (isVenue_removed other) apart
    exact later
  constructor
  · intro c member
    constructor
    · intro called
      exact gone ((gated c member).isVenue called)
    · intro given
      exact ((gated c member).given given).resolve_left gone
  · intro named
    exact named_reverts named gone o.start

/-- Account `0xCA` calls the router at `0x50`. -/
def sampleOp (call : UserCall) : UserOp where
  env := sampleMocks.env
  sender := 0xCA
  value := 0
  timestamp := 0
  entered := false
  start := .start (.funded 1000)
  call := call

/-- Neither the fee check, nor the pull onto the router, nor the fallback, is gated by
    the whitelist. -/
theorem delisting_gaps :
    (∃ s',
        (UserCall.swap (.swapViaVenueWithFeeV1 0xA1 ⟨0x11, 0x22, 100, 0, 0xBE, 10⟩ ⟨101, 0xFE⟩)).run
          { sampleCtx with
            storage := deployedStorage.after [.admin (.addVenue 0xA1), .admin (.removeVenue 0xA1)] }
        (.start (.funded 1000)) = .error (.feeBpsTooHigh 101 100) s') ∧
    (ExtCall.safeTransferFrom 0x11 0xCA 0x50 100 ∈
        (sampleOp (.swap (.swapV1 ⟨0x11, 0x22, 100, 0, 0xBE, 10⟩))).made 0x50 deployedStorage ∧
      ¬ deployedStorage.isVenue 0x50 ∧ deployedStorage.fallbackQuoter ≠ 0x50) ∧
    (deployedStorage.after [.admin (.addVenue 0xFB)]).isWhitelistedVenue 0xFB ∧
      ∃ c ∈ (sampleOp (.swap (.swapV1 ⟨0x11, 0x22, 100, 0, 0xBE, 10⟩))).made 0x50
        (deployedStorage.after [.admin (.addVenue 0xFB), .admin (.removeVenue 0xFB)]), c.venue? =
          some 0xFB := by
  refine ⟨⟨_, rfl⟩, ⟨?_, ?_, ?_⟩, ?_, ?_⟩
  · decide +kernel
  · decide +kernel
  · decide +kernel
  · decide +kernel
  · decide +kernel

/-- Of two listed venues the second is removed. -/
def sampleHistory : List Op :=
  [.admin (.addVenue 0xA1), .admin (.addVenue 0xA2), .admin (.removeVenue 0xA2)]

/-- A split calls the first venue and not the second, which cannot be named either. -/
theorem delisting_effective_sample :
    (∃ c ∈ (sampleOp (.swap (sampleSplit 0x22))).made 0x50 (deployedStorage.after sampleHistory),
      c.venue? = some 0xA1) ∧
    (∀ c ∈ (sampleOp (.swap (sampleSplit 0x22))).made 0x50 (deployedStorage.after sampleHistory),
      c.venue? ≠ some 0xA2) ∧
    (UserCall.quoteVenueV1 0xA2 0x11 0x22 100).run
      ((sampleOp (.quoteVenueV1 0xA2 0x11 0x22 100)).ctx 0x50
      (deployedStorage.after sampleHistory)) (.start (.funded 1000)) = .error .unknownVenue
        (.start (.funded 1000)) := by
  have split :=
    (delisting_effective 0x50 deployedStorage sampleHistory (sampleOp (.swap (sampleSplit 0x22)))
    (by decide)).2 0xA2 [.admin (.addVenue 0xA1), .admin (.addVenue 0xA2)] [] rfl
      (by decide +kernel)
    (fun _ member => absurd member List.not_mem_nil)
  have quote := (delisting_effective 0x50 deployedStorage sampleHistory
    (sampleOp (.quoteVenueV1 0xA2 0x11 0x22 100)) (by decide)).2 0xA2
    [.admin (.addVenue 0xA1), .admin (.addVenue 0xA2)] [] rfl (by decide +kernel)
      (fun _ member => absurd member List.not_mem_nil)
  refine ⟨by decide +kernel, ?_, ?_⟩
  · intro c member
    exact (split.1 c member).1
  · obtain ⟨e, run, unknown⟩ := quote.2 rfl
    rw [unknown trivial] at run
    exact run

end PropAMM
