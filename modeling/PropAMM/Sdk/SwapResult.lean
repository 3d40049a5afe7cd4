import PropAMM.Router.SplitEvents

/-! # What the SDK makes of a swap's receipt

`wait_for_swap` takes the first `Swapped` and the first `FrontendFeeCharged` of
the router. For a single-venue swap these are the outcome. A split logs one gross
`Swapped` per leg, so there they are the outcome only when one leg was all.
-/

namespace PropAMM

open Txn

/-- A log entry, its topics and data decoded; `none` where they are of no event known. -/
structure Log where
  address : Address
  event : Option Event

structure TransactionReceipt where
  status : Bool
  logs : List Log

structure FeeCharged where
  recipient : Address
  amount : Nat
  deriving DecidableEq

structure SwapResult where
  hash : Word
  receipt : TransactionReceipt
  amountIn : Nat
  amountOut : Nat
  executedVenue : Address
  recipient : Address
  fee : Option FeeCharged

inductive SdkError where
  | transactionReverted (hash : Word) (receipt : TransactionReceipt)
  | missingEvent (hash : Word) (event : String)

/-- The variables of the loop over the logs. -/
structure Decoded where
  /-- `(amount_in, amount_out, recipient, market_maker)` -/
  swapped : Option (Nat × Nat × Address × Address)
  fee : Option FeeCharged

def Decoded.visit (router : Address) (d : Decoded) (log : Log) : Decoded :=
  if log.address ≠ router then d
  else match log.event with
    | some (.swapped _ _ _ amountIn amountOut recipient marketMaker) =>
      if d.swapped.isNone then
        { d with swapped := some (amountIn, amountOut, recipient, marketMaker) } else d
    | some (.frontendFeeCharged feeRecipient _ feeAmount _) =>
      if d.fee.isNone then { d with fee := some ⟨feeRecipient, feeAmount⟩ } else d
    | _ => d

def waitForSwap (router : Address) (hash : Word) (receipt : TransactionReceipt) :
    Except SdkError SwapResult :=
  if receipt.status = false then .error (.transactionReverted hash receipt)
  else
    let d := receipt.logs.foldl (Decoded.visit router) ⟨none, none⟩
    match d.swapped with
    | none => .error (.missingEvent hash "Swapped")
    | some (amountIn, amountOut, recipient, marketMaker) =>
      .ok
        { hash, receipt, amountIn, amountOut, executedVenue := marketMaker, recipient,
          fee := d.fee }

/-! ## The first events -/

namespace Event

/-- What a `Swapped` reports. -/
def swap? : Event → Option (Nat × Nat × Address × Address)
  | swapped _ _ _ amountIn amountOut recipient marketMaker =>
      some (amountIn, amountOut, recipient, marketMaker)
  | _ => none

/-- What a `FrontendFeeCharged` reports. -/
def charge? : Event → Option FeeCharged
  | frontendFeeCharged feeRecipient _ feeAmount _ => some ⟨feeRecipient, feeAmount⟩
  | _ => none

end Event

/-- The events of the router among the logs, in order. -/
def routerEvents (router : Address) (receipt : TransactionReceipt) : List (Option Event) :=
  (receipt.logs.filter fun log => log.address = router).map Log.event

theorem Decoded.visit_own {router : Address} (d : Decoded) {log : Log} {e : Event}
    (own : log.address = router) (known : log.event = some e) :
    Decoded.visit router d log = ⟨d.swapped.or e.swap?, d.fee.or e.charge?⟩ := by
  obtain ⟨swapped, fee⟩ := d
  unfold visit
  rw [if_neg (not_not.mpr own), known]
  cases e with
  | swapped =>
      cases swapped <;> cases fee <;> rfl
  | frontendFeeCharged =>
      cases swapped <;> cases fee <;> rfl
  | fallbackSwapRouterUpdated | fallbackQuoterUpdated | fallbackFeeUpdated | pairFeeUpdated
  | venueWhitelisted | venueRemoved | paused | unpaused =>
      cases swapped <;> cases fee <;> rfl

/-- The loop finds the first of each. -/
theorem Decoded.foldl_visit {router : Address} {logs : List Log} {events : List Event}
    (known : (logs.filter fun log => log.address = router).map Log.event = events.map some)
    (d : Decoded) :
    logs.foldl (Decoded.visit router) d =
      ⟨d.swapped.or (events.findSome? Event.swap?), d.fee.or (events.findSome? Event.charge?)⟩ := by
  induction logs generalizing d events with
  | nil =>
      have none : events = [] := List.map_eq_nil_iff.mp known.symm
      subst none
      simp
  | cons log logs ih =>
      rw [List.foldl_cons]
      by_cases own : log.address = router
      · rw [List.filter_cons_of_pos (by simpa using own), List.map_cons] at known
        obtain ⟨e, rest, rfl, here, later⟩ := List.map_eq_cons_iff.mp known.symm
        rw [ih later.symm, Decoded.visit_own d own here.symm, List.findSome?_cons,
          List.findSome?_cons]
        cases e.swap? <;> cases e.charge? <;> simp
      · have skipped : Decoded.visit router d log = d := if_pos own
        rw [List.filter_cons_of_neg (by simpa using own)] at known
        rw [skipped]
        exact ih known d

/-! ## What the router did -/

/-- The fee skimmed from a gross delivery. -/
def chargedOn (gross : Nat) (fee : FrontendFee) : Option FeeCharged :=
  if feeOf gross fee.bps = 0 then none else some ⟨fee.recipient, feeOf gross fee.bps⟩

/-- The fee a call skims, none where it is zero or the call takes none. -/
def skimmed (x : Ctx) (call : SwapCall) (s : ChainState) : Option FeeCharged :=
  call.fee?.bind fun fee => (result? (call.executeGross x) s).bind fun gross =>
    chargedOn gross.1 fee

/-- The receipt of a successful transaction that took the router from `s` to `s'`. -/
structure Mined (x : Ctx) (s s' : ChainState) (receipt : TransactionReceipt) : Prop where
  status : receipt.status = true
  logged : ∃ events, s'.logs = s.logs ++ events ∧ routerEvents x.self receipt = events.map some

/-- The decoded result is the outcome of the call, which returned `out`. -/
structure Reports (x : Ctx) (call : SwapCall) (s : ChainState) (out : Nat) (r : SwapResult) :
    Prop where
  amountIn : r.amountIn = call.args.amountIn
  amountOut : r.amountOut = out
  recipient : r.recipient = call.args.recipient
  fee : r.fee = skimmed x call s

/-- A fee form whose token goes to the router itself, which nets it nothing. -/
def PaysItself (x : Ctx) (call : SwapCall) : Prop :=
  call.fee? ≠ none ∧ call.args.recipient = x.self ∧ call.args.tokenOut ≠ ethSentinel

/-- The router logged one event alone: one leg filled and no fee was charged. -/
def OneEvent (x : Ctx) (call : SwapCall) (receipt : TransactionReceipt) : Prop :=
  ∃ e, routerEvents x.self receipt = [some e] ∧ (PaysItself x call → e.amountOut = 0)

/-- Transfers credit the receiver in full, and one to the router itself changes nothing. -/
structure CreditsAnyone (x : Ctx) (token : Address) : Prop where
  others : CreditsExactly x token
  itself : ∀ {amount L L'}, Step x (.safeTransfer token x.self amount) L L' →
    L'.balance token x.self = L.balance token x.self

section Outcome

variable {x : Ctx} {call : SwapCall} {s s' : ChainState} {out : Nat} {fee : FrontendFee}

theorem charge?_feeEvents (gross : Nat) (fee : FrontendFee) (tokenOut : Address) :
    (feeEvents x tokenOut (feeOf gross fee.bps) fee).findSome? Event.charge? =
      chargedOn gross fee := by
  unfold feeEvents chargedOn
  split <;> rfl

theorem swap?_feeEvents (feeAmt : Nat) (fee : FrontendFee) (tokenOut : Address) :
    (feeEvents x tokenOut feeAmt fee).findSome? Event.swap? = none := by
  unfold feeEvents
  split <;> rfl

theorem skimmed_eq {gross executed s₁} (charged : call.fee? = some fee)
    (execution : call.executeGross x s = .ok (gross, executed) s₁) :
    skimmed x call s = chargedOn gross fee := by
  unfold skimmed result?
  rw [charged, execution]
  rfl

/-- Executing to the router itself logs nothing. -/
theorem ensures_executeGross_single (charged : call.fee? = some fee)
    (single : call.isSplit = false) :
    Ensures (call.executeGross x) s (fun _ s₁ => s₁.logs = s.logs) := by
  cases call with
  | swapWithFeeV1 a fee' =>
      rw [SwapCall.executeGross]
      apply ensures_guarded
      simp only [Ensures, wp_bind]
      apply ensures_validateFee
      intro _ _
      apply ensures_grossUp
      intro grossMin _
      apply (within_pickBestPropAMM (quotedFrame x.enter) _ _ _).ensures.mono
      intro best s₁ quoted
      apply ensures_coreSwap.mono
      intro r s₂ swapped
      rw [swapped.2, quoted.2.1]
  | swapViaVenueWithFeeV1 venue a fee' =>
      rw [SwapCall.executeGross]
      apply ensures_guarded
      simp only [Ensures, wp_bind, wp_require, implies_true, and_true]
      apply ensures_validateFee
      intro _ _ _
      apply ensures_grossUp
      intro grossMin _
      apply ensures_coreSwap.mono
      intro r s₂ swapped
      exact swapped.2
  | swapViaSelectedVenuesWithFeeV1 venues a fee' =>
      rw [SwapCall.executeGross]
      apply ensures_guarded
      simp only [Ensures, wp_bind]
      apply ensures_validateFee
      intro _ _
      apply ensures_grossUp
      intro grossMin _
      apply (within_pickBestVenueFrom (quotedFrame x.enter) _ _ _ _).ensures.mono
      intro best s₁ quoted
      apply ensures_coreSwap.mono
      intro r s₂ swapped
      rw [swapped.2, quoted.2.1]
  | swapSplitV1 | swapSplitWithFeeV1 => cases single
  | swapV1 | swapViaVenueV1 | swapViaSelectedVenuesV1 => cases charged

/-- A single-venue skim logs the fee, and then the swap with the net amount. -/
theorem ensures_payOut_single {gross : Nat} {executed : Address} {s₁ : ChainState}
    (single : call.isSplit = false) :
    Ensures (call.payOut x fee (gross, executed)) s₁ (fun out s' => s'.logs = s₁.logs ++
      (feeEvents x call.args.tokenOut (feeOf gross fee.bps) fee ++
        [swappedEvent x call.args out executed])) := by
  simp only [SwapCall.payOut, single, if_true, Ensures, wp_bind]
  apply ensures_skimAndDisburse.mono
  rintro out s₂ ⟨_, logs⟩
  show s₂.logs ++ _ = _
  rw [logs, List.append_assoc]
  rfl

/-- A single-venue swap logs its outcome. -/
theorem logged_single (single : call.isSplit = false) (run : call.run x s = .ok out s') :
    ∃ events executed, s'.logs = s.logs ++ events ∧
      events.findSome? Event.swap? = some (call.args.amountIn, out, call.args.recipient, executed) ∧
      events.findSome? Event.charge? = skimmed x call s := by
  cases charged : call.fee? with
  | none =>
      have completed := completed_of_run run
      unfold Completed at completed
      rw [single, charged] at completed
      obtain ⟨_, _, venue, executed, _, logs⟩ := completed.quoted
      refine ⟨_, executed, logs, rfl, ?_⟩
      unfold skimmed
      rw [charged]
      rfl
  | some fee =>
      rw [run_eq_payOut charged] at run
      obtain ⟨⟨gross, executed⟩, s₁, execution, rest⟩ := exists_of_bind_ok run
      have silent :=
        wp_ok (Q := fun _ s₁ => s₁.logs = s.logs) (ensures_executeGross_single charged single)
          execution
      have logs :=
        wp_ok (Q := fun out s' => s'.logs = s₁.logs ++ (feeEvents x.enter call.args.tokenOut
        (feeOf gross fee.bps) fee ++ [swappedEvent x.enter call.args out executed]))
          (ensures_payOut_single single) rest
      rw [silent] at logs
      refine ⟨_, executed, logs, ?_, ?_⟩
      · rw [List.findSome?_append, swap?_feeEvents]
        rfl
      · rw [List.findSome?_append, charge?_feeEvents, skimmed_eq charged execution]
        exact Option.or_none

/-- The fee a skim leaves out of the delivery. -/
def FeeCharged.taken (charge : Option FeeCharged) : Nat := charge.elim 0 FeeCharged.amount

theorem taken_chargedOn (gross : Nat) (fee : FrontendFee) :
    FeeCharged.taken (chargedOn gross fee) = feeOf gross fee.bps := by
  unfold chargedOn
  split
  · rename_i none
    exact none.symm
  · rfl

/-- Away from the router a disbursement is credited in full. -/
theorem SkimmedAndDisbursed.kept {gross : Nat} {L L₁ L' : Ledger}
    (h : SkimmedAndDisbursed x.enter call.args.tokenOut gross fee call.args.recipient
      call.args.amountOutMin L L₁ out L')
    (charged : call.fee? = some fee) (others : ¬ PaysItself x call)
    (credits : call.args.tokenOut ≠ ethSentinel → CreditsAnyone x call.args.tokenOut) :
    out = gross - feeOf gross fee.bps := by
  by_cases eth : call.args.tokenOut = ethSentinel
  · have measured := h.disbursed.measured
    rwa [if_pos eth] at measured
  · have away : call.args.recipient ≠ x.self := by
      intro itself
      exact others ⟨by rw [charged]; exact Option.some_ne_none fee, itself, eth⟩
    exact h.disbursed.exact away fun token _ _ _ _ other paid => (credits token).others other
      (step_enter.mp paid)

/-- Paid to the router itself it measures nothing. -/
theorem SkimmedAndDisbursed.nothing {gross : Nat} {L L₁ L' : Ledger}
    (h : SkimmedAndDisbursed x.enter call.args.tokenOut gross fee call.args.recipient
      call.args.amountOutMin L L₁ out L')
    (pays : PaysItself x call)
    (credits : call.args.tokenOut ≠ ethSentinel → CreditsAnyone x call.args.tokenOut) :
    out = 0 := by
  obtain ⟨_, itself, token⟩ := pays
  have measured := h.disbursed.measured
  have paid := h.disbursed.paid
  rw [if_neg token] at measured
  rw [Paid, paymentCall, if_neg token, itself] at paid
  rw [itself] at measured
  split at paid
  · rw [paid] at measured
    omega
  · have same := (credits token).itself (step_enter.mp paid)
    omega

/-- The events of a split, and what they leave of its gross delivery. -/
structure SplitLogged (x : Ctx) (call : SwapCall) (s : ChainState) (out gross : Nat)
    (swaps fees : List Event) : Prop where
  accounted : SplitAccounted x.enter call.args gross swaps
  positive : 0 < call.args.amountIn
  sells : ∀ e ∈ swaps, 0 < e.amountIn
  unswapped : fees.findSome? Event.swap? = none
  charge : fees.findSome? Event.charge? = skimmed x call s
  free : fees = [] ↔ FeeCharged.taken (skimmed x call s) = 0
  covered : FeeCharged.taken (skimmed x call s) ≤ gross
  kept : ¬ PaysItself x call → out + FeeCharged.taken (skimmed x call s) = gross
  nothing : PaysItself x call → out = 0

theorem logged_split (split : call.isSplit = true) (run : call.run x s = .ok out s')
    (credits : call.args.tokenOut ≠ ethSentinel → CreditsAnyone x call.args.tokenOut) :
    ∃ gross swaps fees, s'.logs = s.logs ++ (swaps ++ fees) ∧
    SplitLogged x call s out gross swaps fees := by
  cases charged : call.fee? with
  | none =>
      have whole : call.executeGross x s = .ok (out, x.self) s' := by
        rw [executeGross_of_plain charged]
        show EStateM.map _ _ s = _
        rw [EStateM.map, run]
      obtain ⟨swaps, logs, accounted, positive, sells⟩ :=
        (wp_ok (ensures_executeGross_split split) whole).accounted
      have none : skimmed x call s = none := by
        unfold skimmed
        rw [charged]
        rfl
      refine ⟨out, swaps, [], by rw [List.append_nil, logs], accounted, positive, sells, rfl,
        none.symm, ?_, ?_, ?_, ?_⟩
      · rw [none]
        exact ⟨fun _ => rfl, fun _ => rfl⟩
      · rw [none]
        exact Nat.zero_le out
      · rw [none]
        exact fun _ => rfl
      · intro pays
        exact absurd charged pays.1
  | some fee =>
      rw [run_eq_payOut charged] at run
      obtain ⟨⟨gross, executed⟩, s₁, execution, rest⟩ := exists_of_bind_ok run
      obtain ⟨swaps, logs, accounted, positive, sells⟩ :=
        (wp_ok (ensures_executeGross_split split) execution).accounted
      obtain ⟨⟨L, L₁, L', disbursed⟩, feeLogs⟩ := wp_ok (ensures_payOut_split split) rest
      have taken : FeeCharged.taken (skimmed x call s) = feeOf gross fee.bps := by
        rw [skimmed_eq charged execution, taken_chargedOn]
      refine ⟨gross, swaps, _, by rw [feeLogs, logs, List.append_assoc], accounted, positive, sells,
        swap?_feeEvents _ _ _, ?_, ?_, ?_, ?_, ?_⟩
      · rw [charge?_feeEvents, skimmed_eq charged execution]
      · rw [taken]
        unfold feeEvents
        split
        · rename_i none
          exact ⟨fun _ => none, fun _ => rfl⟩
        · rename_i some
          exact ⟨fun empty => absurd empty (List.cons_ne_nil _ _), fun zero => absurd zero some⟩
      · rw [taken]
        exact disbursed.covered
      · intro others
        have net := disbursed.kept charged others credits
        have covered := disbursed.covered
        rw [taken]
        omega
      · intro pays
        exact disbursed.nothing pays credits

/-- The decoder returns the first events' values. -/
theorem waitForSwap_ok {receipt : TransactionReceipt} {events : List Event}
    {amountIn amountOut : Nat} {recipient marketMaker : Address} (hash : Word)
    (status : receipt.status = true) (known : routerEvents x.self receipt = events.map some)
    (first : events.findSome? Event.swap? = some (amountIn, amountOut, recipient, marketMaker)) :
    waitForSwap x.self hash receipt = .ok
      ⟨hash, receipt, amountIn, amountOut, marketMaker, recipient,
        events.findSome? Event.charge?⟩ := by
  simp only [waitForSwap, status, Decoded.foldl_visit known, Option.none_or, first,
    Bool.true_eq_false, if_false]

/-- A second leg would have sold something too. -/
theorem SplitLogged.alone {gross : Nat} {e : Event} {rest fees : List Event}
    (logged : SplitLogged x call s out gross (e :: rest) fees)
    (all_in : e.amountIn = call.args.amountIn) :
    rest = [] := by
  have sold := logged.accounted.sold
  cases rest with
  | nil => rfl
  | cons d rest =>
      have more := logged.sells d (List.mem_cons_of_mem e List.mem_cons_self)
      rw [List.map_cons, List.sum_cons, List.map_cons, List.sum_cons] at sold
      omega

theorem single_of_map_some {e d : Event} {rest fees : List Event}
    (single : [some d] = ((e :: rest) ++ fees).map some) : rest = [] ∧ fees = [] ∧ e = d := by
  have length := congrArg List.length single
  simp only [List.length_map, List.length_append, List.length_cons, List.length_nil] at length
  have short : rest = [] := List.length_eq_zero_iff.mp (by omega)
  have free : fees = [] := List.length_eq_zero_iff.mp (by omega)
  subst short free
  cases single
  exact ⟨rfl, rfl, rfl⟩

/-- The decoded result of a split is its outcome exactly when one leg was all. -/
theorem SplitLogged.reports_iff {gross : Nat} {swaps fees : List Event}
    {receipt : TransactionReceipt} (logged : SplitLogged x call s out gross swaps fees)
    (hash : Word) (status : receipt.status = true)
    (known : routerEvents x.self receipt = (swaps ++ fees).map some) :
    (∃ r, waitForSwap x.self hash receipt = .ok r ∧ Reports x call s out r) ↔
    OneEvent x call receipt := by
  have sold := logged.accounted.sold
  have bought := logged.accounted.bought
  cases swaps with
  | nil =>
      have none : (0 : Nat) = call.args.amountIn := sold
      have positive := logged.positive
      omega
  | cons e rest =>
      obtain ⟨amountIn, amountOut, marketMaker, named⟩ :=
        logged.accounted.named e List.mem_cons_self
      have first : ((e :: rest) ++ fees).findSome? Event.swap? =
          some (amountIn, amountOut, call.args.recipient, marketMaker) := by
        rw [List.cons_append, List.findSome?_cons, named]
        rfl
      have uncharged : (e :: rest).findSome? Event.charge? = none := by
        rw [List.findSome?_eq_none_iff]
        intro d member
        obtain ⟨_, _, _, same⟩ := logged.accounted.named d member
        rw [same]
        rfl
      have decoded := waitForSwap_ok hash status known first
      rw [List.findSome?_append, uncharged, Option.none_or, logged.charge] at decoded
      have here : e.amountIn = amountIn ∧ e.amountOut = amountOut := by
        rw [named]
        exact ⟨rfl, rfl⟩
      rw [List.map_cons, List.sum_cons, here.1] at sold
      rw [List.map_cons, List.sum_cons, here.2] at bought
      constructor
      · rintro ⟨r, result, reports⟩
        rw [decoded] at result
        cases result
        have all_in : amountIn = call.args.amountIn := reports.amountIn
        have all_out : amountOut = out := reports.amountOut
        have alone : rest = [] := logged.alone (here.1.trans all_in)
        subst alone
        rw [List.map_nil, List.sum_nil] at bought
        have covered := logged.covered
        have untaken : FeeCharged.taken (skimmed x call s) = 0 := by
          by_cases pays : PaysItself x call
          · have nothing := logged.nothing pays
            omega
          · have kept := logged.kept pays
            omega
        rw [logged.free.mpr untaken] at known
        refine ⟨e, known, fun pays => ?_⟩
        have nothing := logged.nothing pays
        omega
      · rintro ⟨d, single, unpaid⟩
        obtain ⟨rfl, rfl, rfl⟩ := single_of_map_some (single.symm.trans known)
        have untaken := logged.free.mp rfl
        rw [List.map_nil, List.sum_nil] at sold bought
        refine ⟨_, decoded, sold, ?_, rfl, rfl⟩
        show amountOut = out
        by_cases pays : PaysItself x call
        · have nothing := logged.nothing pays
          have zero := unpaid pays
          omega
        · have kept := logged.kept pays
          omega

/-- The SDK's result is the outcome of the call for every single-venue form, and for a
    split exactly when the router logged one event. -/
theorem wait_for_swap_reports_iff {receipt : TransactionReceipt} {hash : Word}
    (run : call.run x s = .ok out s') (mined : Mined x s s' receipt)
    (credits : call.args.tokenOut ≠ ethSentinel → CreditsAnyone x call.args.tokenOut) :
    (∃ r, waitForSwap x.self hash receipt = .ok r ∧ Reports x call s out r) ↔
      call.isSplit = false ∨ OneEvent x call receipt := by
  obtain ⟨events, logs, known⟩ := mined.logged
  cases split : call.isSplit with
  | false =>
      obtain ⟨events', executed, logs', swap, charge⟩ := logged_single split run
      have same : events = events' := List.append_cancel_left (logs.symm.trans logs')
      subst same
      refine ⟨fun _ => .inl rfl, fun _ => ⟨_, waitForSwap_ok hash mined.status known swap, ?_⟩⟩
      exact ⟨rfl, rfl, rfl, charge⟩
  | true =>
      obtain ⟨gross, swaps, fees, logs', logged⟩ := logged_split split run credits
      have same : events = swaps ++ fees := List.append_cancel_left (logs.symm.trans logs')
      subst same
      rw [logged.reports_iff hash mined.status known]
      exact ⟨.inr, fun whole => whole.resolve_left (by decide)⟩

end Outcome

/-- The logs of the router alone, as a receipt. -/
def receiptOf (x : Ctx) (events : List Event) : TransactionReceipt :=
  ⟨true, events.map fun e => ⟨x.self, some e⟩⟩

theorem routerEvents_receiptOf (x : Ctx) (events : List Event) :
    routerEvents x.self (receiptOf x events) = events.map some := by
  unfold routerEvents receiptOf
  rw [List.filter_eq_self.mpr, List.map_map]
  · rfl
  · intro log member
    obtain ⟨e, _, rfl⟩ := List.mem_map.mp member
    exact decide_eq_true rfl

theorem Mocks.creditsAnyone (m : Mocks) (whitelist : EnumerableSet Address) (sender : Address)
    (value : Nat) {token : Address} (plain : m.transferFeeBps token = 0) :
    CreditsAnyone (m.ctx whitelist sender value) token := by
  refine ⟨m.creditsExactly whitelist sender value plain, ?_⟩
  intro amount L L' paid
  obtain ⟨_, _, answer⟩ := paid.answer
  obtain ⟨K, transferred, rest⟩ := Option.map_eq_some_iff.mp answer
  cases rest
  change m.transfer token m.router m.router amount (L.pay _ _ 0) = some L' at transferred
  rw [Ledger.pay_zero] at transferred
  have balance := Mocks.transfer_balance token m.router transferred
  simp only [plain, if_true] at balance
  show L'.balance token m.router = L.balance token m.router
  omega

/-- The events of a split of 100 of which one leg takes 94 and Uniswap 6. -/
def splitReceipt : TransactionReceipt := receiptOf sampleCtx
  [.swapped 0xCA 0x11 0x22 94 188 0xBE 0xA1, .swapped 0xCA 0x11 0x22 6 6 0xBE 0xFB]

/-- The result shows the first leg alone: 94 for 188, of 100 for 194. -/
theorem split_result_misreports :
    ∃ s', (sampleSplit 0x22).run sampleCtx (.start (.funded 1000)) = .ok 194 s' ∧
      Mined sampleCtx (.start (.funded 1000)) s' splitReceipt ∧ CreditsAnyone sampleCtx 0x22 ∧
      ¬ ∃ r, waitForSwap sampleCtx.self 0 splitReceipt = .ok r ∧
        Reports sampleCtx (sampleSplit 0x22) (.start (.funded 1000)) 194 r := by
  obtain ⟨s', run, logs⟩ := exists_outcome (a := 194) (s := .start (.funded 1000))
    (m := (sampleSplit 0x22).run sampleCtx) (f := fun s' => s'.logs)
    (b := [.swapped 0xCA 0x11 0x22 94 188 0xBE 0xA1, .swapped 0xCA 0x11 0x22 6 6 0xBE 0xFB])
      (by decide +kernel)
  refine ⟨s', run, ⟨rfl, _, logs, routerEvents_receiptOf _ _⟩, sampleMocks.creditsAnyone _ _ _ rfl,
    ?_⟩
  rintro ⟨r, result, reports⟩
  cases result
  have all_in : 94 = 100 := reports.amountIn
  omega

/-- A swap through the best venue, with one per cent skimmed. -/
theorem wait_for_swap_reports_sample :
    ∃ s' receipt r, (SwapCall.swapWithFeeV1 ⟨0x11, 0x22, 100, 90, 0xBE, 10⟩ ⟨100, 0xFE⟩).run
      sampleCtx
        (.start (.funded 1000)) = .ok 198 s' ∧ waitForSwap sampleCtx.self 0 receipt = .ok r ∧
      Reports sampleCtx (.swapWithFeeV1 ⟨0x11, 0x22, 100, 90, 0xBE, 10⟩ ⟨100, 0xFE⟩)
        (.start (.funded 1000)) 198 r := by
  obtain ⟨s', run, logs⟩ := exists_outcome (a := 198) (s := .start (.funded 1000))
    (m := (SwapCall.swapWithFeeV1 ⟨0x11, 0x22, 100, 90, 0xBE, 10⟩ ⟨100, 0xFE⟩).run sampleCtx)
    (f := fun s' => s'.logs)
    (b := [.frontendFeeCharged 0xFE 0x22 2 0xCA, .swapped 0xCA 0x11 0x22 100 198 0xBE 0xA1])
      (by decide +kernel)
  have mined : Mined sampleCtx (.start (.funded 1000)) s' (receiptOf sampleCtx
      [.frontendFeeCharged 0xFE 0x22 2 0xCA, .swapped 0xCA 0x11 0x22 100 198 0xBE 0xA1]) :=
    ⟨rfl, _, logs, routerEvents_receiptOf _ _⟩
  have credits : CreditsAnyone sampleCtx 0x22 := sampleMocks.creditsAnyone _ _ _ rfl
  obtain ⟨r, result, reports⟩ :=
    (wait_for_swap_reports_iff run mined fun _ => credits).mpr (.inl rfl)
  exact ⟨s', _, r, run, result, reports⟩

end PropAMM
