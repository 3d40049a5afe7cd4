import PropAMM.Router.FeeSoundness
import PropAMM.Router.PlanSafety

/-! # Split event accounting

A split logs one `Swapped` per leg that filled and one for what Uniswap took.
Their inputs add up to the order and their outputs to what was delivered.
-/

namespace PropAMM

open Txn FrontendFees

namespace Event

/-- Input reported by `Swapped`. -/
def amountIn : Event → Nat
  | swapped _ _ _ amountIn _ _ _ => amountIn
  | _ => 0

/-- Output reported by `Swapped`. -/
def amountOut : Event → Nat
  | swapped _ _ _ _ amountOut _ _ => amountOut
  | _ => 0

/-- Fee reported by `FrontendFeeCharged`. -/
def feeAmount : Event → Nat
  | frontendFeeCharged _ _ feeAmt _ => feeAmt
  | _ => 0

end Event

section Sums

variable {x : Ctx} {r : LegRun}

theorem sum_amountIn_filled (filled : List (Leg × Nat)) :
    ((filled.map (legEvent x r)).map Event.amountIn).sum = soldBy filled := by
  rw [List.map_map]
  rfl

theorem sum_amountOut_filled (filled : List (Leg × Nat)) :
    ((filled.map (legEvent x r)).map Event.amountOut).sum = deliveredBy filled := by
  rw [List.map_map]
  rfl

theorem SplitFill.sum_amountIn (f : SplitFill) :
    ((f.events x r).map Event.amountIn).sum = soldBy f.filled + f.absorbed := by
  rw [events, List.map_append, List.sum_append, sum_amountIn_filled]
  split
  · rename_i none
    rw [none]
    rfl
  · rfl

theorem SplitFill.sum_amountOut {f : SplitFill} (idle : f.absorbed = 0 → f.fbOut = 0) :
    ((f.events x r).map Event.amountOut).sum = f.total := by
  rw [events, List.map_append, List.sum_append, sum_amountOut_filled, total]
  split
  · rename_i none
    rw [idle none]
    rfl
  · rfl

theorem SplitFill.length_events_le (f : SplitFill) :
    (f.events x r).length ≤ f.filled.length + 1 := by
  rw [events, List.length_append, List.length_map]
  split <;> simp

theorem SplitFill.named_events {f : SplitFill} {e : Event} (member : e ∈ f.events x r) :
    ∃ amountIn amountOut marketMaker,
      e = .swapped x.sender r.tokenIn r.tokenOut amountIn amountOut r.swapFor marketMaker := by
  rw [events, List.mem_append] at member
  rcases member with leg | uniswap
  · obtain ⟨⟨leg, out⟩, _, same⟩ := List.mem_map.mp leg
    exact ⟨leg.amountIn, out, leg.venue, same.symm⟩
  · split at uniswap
    · cases uniswap
    · exact ⟨_, _, _, List.mem_singleton.mp uniswap⟩

end Sums

section Legs

variable {x : Ctx} {r : LegRun} {legs : List Leg} {L L' : Ledger} {filled : List (Leg × Nat)}
  {absorbed : Nat}

/-- Only legs of other venues fill. -/
theorem LegRuns.other (runs : LegRuns x r legs L filled absorbed L') :
    ∀ leg ∈ filled.map Prod.fst, leg.venue ≠ x.storage.fallbackSwapRouter := by
  induction runs with
  | nil => simp
  | routed _ _ ih => exact ih
  | filled other _ _ ih =>
      intro leg member
      rcases List.mem_cons.mp member with first | later
      · subst first
        exact other
      · exact ih leg later
  | failed _ _ _ ih => exact ih

/-- A leg left out keeps the filled ones from being all. -/
theorem ne_cons_of_sublist {leg : Leg} (among : (filled.map Prod.fst).Sublist legs) :
    filled.map Prod.fst ≠ leg :: legs := by
  intro all
  have size := among.length_le
  rw [all, List.length_cons] at size
  omega

/-- Nothing is left to absorb exactly when every leg filled. -/
theorem LegRuns.absorbed_eq_zero_iff (runs : LegRuns x r legs L filled absorbed L')
    (positive : ∀ leg ∈ legs, 0 < leg.amountIn) : absorbed = 0 ↔ filled.map Prod.fst = legs := by
  induction runs with
  | nil => simp
  | @routed leg _ _ _ _ _ _ rest _ =>
      have some_in := positive leg (by simp)
      exact ⟨fun none => by omega, fun all => absurd all (ne_cons_of_sublist rest.sublist)⟩
  | filled _ _ _ ih =>
      rw [ih fun leg member => positive leg (List.mem_cons_of_mem _ member), List.map_cons]
      simp
  | @failed leg _ _ _ _ _ _ _ rest _ =>
      have some_in := positive leg (by simp)
      exact ⟨fun none => by omega, fun all => absurd all (ne_cons_of_sublist rest.sublist)⟩

/-- A sound plan fills at most `MAX_LEGS` of its legs. -/
theorem LegRuns.length_le (runs : LegRuns x r legs L filled absorbed L') {cands : List Candidate}
    {amountIn : Nat} {props : List Leg} (plan : SoundPlan x cands amountIn props legs) :
    filled.length ≤ maxLegs := by
  have among : (filled.map Prod.fst).Sublist
      (legs.filter fun leg => leg.venue ≠ x.storage.fallbackSwapRouter) := by
    have kept := runs.sublist.filter fun leg => leg.venue ≠ x.storage.fallbackSwapRouter
    rwa [List.filter_eq_self.mpr (by simpa using runs.other)] at kept
  have others : (legs.filter fun leg => leg.venue ≠ x.storage.fallbackSwapRouter).length ≤
      props.length := by
    rcases plan.fallback_last with same | ⟨remaining, last⟩
    · rw [same]
      exact List.length_filter_le ..
    · rw [last, List.filter_append, List.length_append]
      simpa using List.length_filter_le ..
  have size := among.length_le
  rw [List.length_map] at size
  exact Nat.le_trans size (Nat.le_trans others plan.few)

end Legs

/-! ## The split entrypoints -/

/-- A split of `a` up to its end, or up to the skim of the fee form: the legs it ran
    and the fills it came to, between the states `s` and `s₁`. -/
def SplitExecuted (x : Ctx) (a : SwapArgs) (s : ChainState) (gross : Nat) (s₁ : ChainState) :
    Prop :=
  ∃ amountOutMin payTo f L, gross = f.total ∧
    SplitFilled x a amountOutMin payTo s.ledger s₁.mark f L ∧
      s₁.logs = s.logs ++ f.events x (legRunOf a amountOutMin payTo)

theorem ensures_executeGross_split {x : Ctx} {call : SwapCall} {s : ChainState}
    (split : call.isSplit = true) :
    Ensures (call.executeGross x) s (fun p s₁ => SplitExecuted x.enter call.args s p.1 s₁) := by
  cases call with
  | swapSplitV1 a =>
      rw [executeGross_of_plain rfl, Ensures, wp_map]
      apply ensures_run.mono
      intro out s₁ completed
      obtain ⟨f, total, filled, logs⟩ := completed.filled
      exact ⟨_, _, f, _, total, filled, logs⟩
  | swapSplitWithFeeV1 a fee =>
      rw [SwapCall.executeGross]
      apply ensures_guarded
      simp only [Ensures, wp_bind, wp_require, implies_true, and_true]
      apply ensures_validateFee
      intro _ _ _
      apply ensures_validateSplitParams
      intro positive bounded
      apply ensures_collectVenues
      apply ensures_grossUp
      intro grossMin gross
      apply (ensures_splitSwap positive bounded).mono
      rintro out s₁ ⟨f, total, filled, logs⟩
      exact ⟨_, _, f, _, total, filled, logs⟩
  | swapV1 | swapWithFeeV1 | swapViaVenueV1 | swapViaVenueWithFeeV1 | swapViaSelectedVenuesV1
  | swapViaSelectedVenuesWithFeeV1 => cases split

/-- The `Swapped` events of a split, accounted for: the legs of the plan that filled,
    then Uniswap when it was left something. -/
structure SplitAccounted (x : Ctx) (a : SwapArgs) (gross : Nat) (swaps : List Event) : Prop where
  legs : ∃ s₁ s₂ legs, planSplit x x.storage.getWhitelistedVenues (resolveToken a.tokenIn)
      (resolveToken a.tokenOut) a.amountIn s₁ = .ok legs s₂ ∧
    ∃ r filled absorbed fbOut L', LegRuns x r legs s₂.ledger filled absorbed L' ∧
      (absorbed = 0 ↔ filled.map Prod.fst = legs) ∧
      swaps = filled.map (legEvent x r) ++ if absorbed = 0 then []
        else [.swapped x.sender a.tokenIn a.tokenOut absorbed fbOut a.recipient
          x.storage.fallbackSwapRouter]
  few : swaps.length ≤ maxLegs + 1
  sold : (swaps.map Event.amountIn).sum = a.amountIn
  bought : (swaps.map Event.amountOut).sum = gross
  named : ∀ e ∈ swaps, ∃ amountIn amountOut marketMaker,
    e = .swapped x.sender a.tokenIn a.tokenOut amountIn amountOut a.recipient marketMaker

/-- Legs sell a positive amount, and so does what they leave. -/
theorem SplitFill.positive_events {x : Ctx} {r : LegRun} {f : SplitFill}
    (positive : ∀ leg ∈ f.filled.map Prod.fst, 0 < leg.amountIn) :
    ∀ e ∈ f.events x r, 0 < e.amountIn := by
  intro e member
  rw [events, List.mem_append] at member
  rcases member with leg | uniswap
  · obtain ⟨p, used, rfl⟩ := List.mem_map.mp leg
    exact positive p.1 (List.mem_map.mpr ⟨p, used, rfl⟩)
  · split at uniswap
    · cases uniswap
    · rename_i some_left
      rw [List.mem_singleton.mp uniswap]
      exact Nat.pos_of_ne_zero some_left

theorem SplitExecuted.accounted {x : Ctx} {a : SwapArgs} {s s₁ : ChainState} {gross : Nat}
    (h : SplitExecuted x a s gross s₁) :
    ∃ swaps, s₁.logs = s.logs ++ swaps ∧ SplitAccounted x a gross swaps ∧
      0 < a.amountIn ∧ ∀ e ∈ swaps, 0 < e.amountIn := by
  obtain ⟨amountOutMin, payTo, f, L, total, filled, logs⟩ := h
  obtain ⟨s₂, s₃, legs, _, planned, start, executed⟩ := filled.run
  obtain ⟨L₁, L₂, runs, absorbed, _⟩ := executed.calls
  obtain ⟨cands, _, props, _, plan⟩ := wp_ok (wp_planSplit filled.positive filled.bounded) planned
  have idle : f.absorbed = 0 → f.fbOut = 0 := by
    intro none
    rw [Absorbed, if_pos none] at absorbed
    exact absorbed.1
  have sells : ∀ leg ∈ f.filled.map Prod.fst, 0 < leg.amountIn := fun leg member =>
    plan.positive leg (runs.sublist.subset member)
  refine ⟨_, logs, ?_, filled.positive, SplitFill.positive_events sells⟩
  constructor
  · refine ⟨s₂, s₃, legs, planned, legRunOf a amountOutMin payTo, f.filled, f.absorbed, f.fbOut,
      L₁, ?_, ?_, rfl⟩
    · rw [start]
      exact runs
    · exact runs.absorbed_eq_zero_iff plan.positive
  · exact Nat.le_trans f.length_events_le (Nat.succ_le_succ (runs.length_le plan))
  · rw [f.sum_amountIn, runs.allocation, executed.allocated]
    rfl
  · rw [SplitFill.sum_amountOut idle, total]
  · intro e member
    exact SplitFill.named_events member

/-! ## What the fee form returns -/

/-- The router's transfers of `token` credit the receiver in full. -/
def CreditsExactly (x : Ctx) (token : Address) : Prop :=
  ∀ {target amount L L'}, target ≠ x.self → Step x (.safeTransfer token target amount) L L' →
    L'.balance token target = L.balance token target + amount

theorem Disbursed.exact {x : Ctx} {tokenOut recipient : Address} {net out : Nat} {L L' : Ledger}
    (h : Disbursed x tokenOut recipient net L out L') (away : recipient ≠ x.self)
    (credits : tokenOut ≠ ethSentinel → CreditsExactly x tokenOut) : out = net := by
  have measured := h.measured
  by_cases eth : tokenOut = ethSentinel
  · rwa [if_pos eth] at measured
  · rw [if_neg eth] at measured
    have paid := h.paid
    rw [Paid, paymentCall, if_neg eth] at paid
    split at paid
    · rw [paid] at measured
      omega
    · have credited := credits eth away paid
      omega

theorem sum_feeEvents (x : Ctx) (tokenOut : Address) (feeAmt : Nat) (fee : FrontendFee) :
    ((feeEvents x tokenOut feeAmt fee).map Event.feeAmount).sum = feeAmt := by
  unfold feeEvents
  split
  · rename_i none
    rw [none]
    rfl
  · rfl

/-- The skim of a split logs the fee and nothing else. -/
theorem ensures_payOut_split {x : Ctx} {call : SwapCall} {fee : FrontendFee} {gross : Nat}
    {executed : Address} {s₁ : ChainState} (split : call.isSplit = true) :
    Ensures (call.payOut x fee (gross, executed)) s₁ (fun out s' =>
      (∃ L L₁ L', SkimmedAndDisbursed x call.args.tokenOut gross fee call.args.recipient
        call.args.amountOutMin L L₁ out L') ∧
        s'.logs = s₁.logs ++ feeEvents x call.args.tokenOut (feeOf gross fee.bps) fee) := by
  simp only [SwapCall.payOut, split, reduceCtorEq, if_false, Ensures, wp_bind]
  apply ensures_skimAndDisburse.mono
  rintro out s₂ ⟨disbursed, logs⟩
  exact ⟨⟨_, _, _, disbursed⟩, logs⟩

/-- Split event accounting. `swaps` are the `Swapped` events of the call and `gross`
    what its execution delivered; a fee form then logs its fee, and returns the rest
    when the token credits exactly and the recipient is not the router itself. -/
theorem split_events {x : Ctx} {call : SwapCall} {s s' : ChainState} {amountOut : Nat}
    (split : call.isSplit = true) (run : call.run x s = .ok amountOut s') :
    ∃ gross swaps, SplitAccounted x.enter call.args gross swaps ∧
      (∃ executed s₁, call.executeGross x s = .ok (gross, executed) s₁ ∧
        s₁.logs = s.logs ++ swaps) ∧
      (call.fee? = none → s'.logs = s.logs ++ swaps ∧ amountOut = gross) ∧
      ∀ fee, call.fee? = some fee → ∃ fees, s'.logs = s.logs ++ swaps ++ fees ∧
        (fees = [] ∨
          ∃ feeAmt, fees = [.frontendFeeCharged fee.recipient call.args.tokenOut feeAmt x.sender]) ∧
        (call.args.recipient ≠ x.self →
          (call.args.tokenOut ≠ ethSentinel → CreditsExactly x call.args.tokenOut) →
          amountOut + (fees.map Event.feeAmount).sum = gross) := by
  cases charged : call.fee? with
  | none =>
      have whole : call.executeGross x s = .ok (amountOut, x.self) s' := by
        rw [executeGross_of_plain charged]
        show EStateM.map _ _ s = _
        rw [EStateM.map, run]
      obtain ⟨swaps, logs, accounted, _⟩ :=
        (wp_ok (ensures_executeGross_split split) whole).accounted
      refine ⟨amountOut, swaps, accounted, ⟨_, s', whole, logs⟩, fun _ => ⟨logs, rfl⟩, ?_⟩
      intro fee other
      cases other
  | some fee =>
      rw [run_eq_payOut charged] at run
      obtain ⟨⟨gross, executed⟩, s₁, execution, rest⟩ := exists_of_bind_ok run
      obtain ⟨swaps, logs, accounted, _⟩ :=
        (wp_ok (ensures_executeGross_split split) execution).accounted
      refine ⟨gross, swaps, accounted, ⟨_, s₁, execution, logs⟩, fun none => absurd none (by simp),
        ?_⟩
      intro _ same
      cases same
      obtain ⟨⟨L, L₁, L', disbursed⟩, feeLogs⟩ := wp_ok (ensures_payOut_split split) rest
      refine ⟨_, by rw [feeLogs, logs], ?_, fun away credits => ?_⟩
      · unfold feeEvents
        split
        · exact .inl rfl
        · exact .inr ⟨_, rfl⟩
      · have net := disbursed.disbursed.exact away fun token _ _ _ _ other paid =>
          credits token other (step_enter.mp paid)
        have covered := disbursed.covered
        rw [sum_feeEvents]
        omega

theorem Mocks.creditsExactly (m : Mocks) (whitelist : EnumerableSet Address) (sender : Address)
    (value : Nat) {token : Address} (plain : m.transferFeeBps token = 0) :
    CreditsExactly (m.ctx whitelist sender value) token := by
  intro target amount L L' away paid
  obtain ⟨_, _, answer⟩ := paid.answer
  obtain ⟨K, transferred, rest⟩ := Option.map_eq_some_iff.mp answer
  cases rest
  change m.transfer token m.router target amount (L.pay _ _ 0) = some L' at transferred
  rw [Ledger.pay_zero, Mocks.transfer, plain] at transferred
  split at transferred
  · cases transferred
  · cases transferred
    have other : target ≠ m.router := away
    simp [Ledger.credit, Ledger.debit, other]

/-- A recipient that is the router itself is credited nothing net: the events show
    194 delivered and 1 charged, yet 0 is returned. -/
theorem split_fee_to_router :
    CreditsExactly sampleCtx 0x22 ∧
      ∃ s', (SwapCall.swapSplitWithFeeV1 ⟨0x11, 0x22, 100, 0, 0x50, 10⟩ ⟨100, 0xFE⟩).run sampleCtx
          (.start (.funded 1000)) = .ok 0 s' ∧
        (s'.logs.map Event.amountOut).sum = 194 ∧ (s'.logs.map Event.feeAmount).sum = 1 ∧
        0 ≠ 194 - 1 := by
  constructor
  · exact sampleMocks.creditsExactly _ _ _ rfl
  · obtain ⟨s', run, sums⟩ := exists_outcome (a := 0) (b := (194, 1)) (s := .start (.funded 1000))
      (m := (SwapCall.swapSplitWithFeeV1 ⟨0x11, 0x22, 100, 0, 0x50, 10⟩ ⟨100, 0xFE⟩).run sampleCtx)
      (f := fun s' => ((s'.logs.map Event.amountOut).sum, (s'.logs.map Event.feeAmount).sum))
        (by decide +kernel)
    exact ⟨s', run, congrArg Prod.fst sums, congrArg Prod.snd sums, by decide⟩

theorem split_events_sample :
    ∃ s' gross swaps fees, (SwapCall.swapSplitWithFeeV1 ⟨0x11, 0x22, 100, 90, 0xBE, 10⟩
      ⟨100, 0xFE⟩).run sampleCtx (.start (.funded 1000)) = .ok 193 s' ∧
      SplitAccounted sampleCtx.enter ⟨0x11, 0x22, 100, 90, 0xBE, 10⟩ gross swaps ∧
      s'.logs = swaps ++ fees ∧ 193 + (fees.map Event.feeAmount).sum = gross := by
  obtain ⟨s', run⟩ := exists_ok (a := 193) (s := .start (.funded 1000))
    (m := (SwapCall.swapSplitWithFeeV1 ⟨0x11, 0x22, 100, 90, 0xBE, 10⟩ ⟨100, 0xFE⟩).run sampleCtx)
    (by decide +kernel)
  obtain ⟨gross, swaps, accounted, _, _, charged⟩ := split_events rfl run
  obtain ⟨fees, logs, _, net⟩ := charged _ rfl
  have credits : CreditsExactly sampleCtx 0x22 := sampleMocks.creditsExactly _ _ _ rfl
  exact ⟨s', gross, swaps, fees, run, accounted, logs, net (by decide) fun _ => credits⟩

end PropAMM
