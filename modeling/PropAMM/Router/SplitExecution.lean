import PropAMM.Router.Execution

/-! # What a successful split consists of

`LegRuns` follows the leg loop one leg at a time and collects the legs that
filled, with what each delivered, and the input left for Uniswap. A leg that
failed contributes to the latter and to nothing else.
-/

namespace PropAMM

open Txn

/-- A leg run on `L` reverts. -/
def Refused (x : Ctx) (r : LegRun) (leg : Leg) (L : Ledger) : Prop :=
  ∃ s e s', s.ledger = L ∧
    dispatchLeg x r leg (L.balance r.tokenOut_ (r.measuredAt x)) s = .error e s'

def LegFilled (x : Ctx) (r : LegRun) (leg : Leg) (L : Ledger) (out : Nat) (L' : Ledger) : Prop :=
  Dispatched x leg.venue r.tokenIn_ r.tokenOut_ leg.amountIn leg.minOut x.self (r.measuredAt x)
    r.deadline (L.balance r.tokenOut_ (r.measuredAt x)) L out L'

inductive LegRuns (x : Ctx) (r : LegRun) :
    List Leg → Ledger → (filled : List (Leg × Nat)) → (absorbed : Nat) → Ledger → Prop
  | nil {L} : LegRuns x r [] L [] 0 L
  | routed {leg legs L filled absorbed L'} (fallback : leg.venue = x.storage.fallbackSwapRouter)
      (rest : LegRuns x r legs L filled absorbed L') :
      LegRuns x r (leg :: legs) L filled (leg.amountIn + absorbed) L'
  | filled {leg legs L out L₁ filled absorbed L'} (other : leg.venue ≠ x.storage.fallbackSwapRouter)
      (run : LegFilled x r leg L out L₁) (rest : LegRuns x r legs L₁ filled absorbed L') :
      LegRuns x r (leg :: legs) L ((leg, out) :: filled) absorbed L'
  | failed {leg legs L filled absorbed L'} (other : leg.venue ≠ x.storage.fallbackSwapRouter)
      (refused : Refused x r leg L) (rest : LegRuns x r legs L filled absorbed L') :
      LegRuns x r (leg :: legs) L filled (leg.amountIn + absorbed) L'

/-- What the filled legs delivered, in all. -/
def deliveredBy (filled : List (Leg × Nat)) : Nat := (filled.map Prod.snd).sum

@[simp] theorem deliveredBy_nil : deliveredBy [] = 0 := rfl

@[simp] theorem deliveredBy_cons (leg : Leg) (out : Nat) (filled : List (Leg × Nat)) :
    deliveredBy ((leg, out) :: filled) = out + deliveredBy filled := rfl

/-- What the filled legs sold. -/
def soldBy (filled : List (Leg × Nat)) : Nat := (filled.map fun f => f.1.amountIn).sum

@[simp] theorem soldBy_nil : soldBy [] = 0 := rfl

@[simp] theorem soldBy_cons (leg : Leg) (out : Nat) (filled : List (Leg × Nat)) :
    soldBy ((leg, out) :: filled) = leg.amountIn + soldBy filled := rfl

/-- What a plan allocates. -/
def allocatedBy (legs : List Leg) : Nat := (legs.map Leg.amountIn).sum

@[simp] theorem allocatedBy_nil : allocatedBy [] = 0 := rfl

@[simp] theorem allocatedBy_cons (leg : Leg) (legs : List Leg) :
    allocatedBy (leg :: legs) = leg.amountIn + allocatedBy legs := rfl

@[simp] theorem allocatedBy_append (legs legs' : List Leg) :
    allocatedBy (legs ++ legs') = allocatedBy legs + allocatedBy legs' := by
  simp [allocatedBy]

def legEvent (x : Ctx) (r : LegRun) (f : Leg × Nat) : Event :=
  .swapped x.sender r.tokenIn r.tokenOut f.1.amountIn f.2 r.swapFor f.1.venue

/-- Every leg is counted once, as sold or as absorbed. -/
theorem LegRuns.allocation {x : Ctx} {r : LegRun} {legs : List Leg} {L L' : Ledger}
    {filled : List (Leg × Nat)} {absorbed : Nat} (runs : LegRuns x r legs L filled absorbed L') :
    soldBy filled + absorbed = allocatedBy legs := by
  induction runs with
  | nil => rfl
  | routed _ _ ih => simp only [allocatedBy_cons]; omega
  | filled _ _ _ ih => simp only [soldBy_cons, allocatedBy_cons]; omega
  | failed _ _ _ ih => simp only [allocatedBy_cons]; omega

/-- The filled legs are among the planned ones, in the same order. -/
theorem LegRuns.sublist {x : Ctx} {r : LegRun} {legs : List Leg} {L L' : Ledger}
    {filled : List (Leg × Nat)} {absorbed : Nat} (runs : LegRuns x r legs L filled absorbed L') :
    (filled.map Prod.fst).Sublist legs := by
  induction runs with
  | nil => exact .slnil
  | routed _ _ ih => exact ih.cons _
  | filled _ _ _ ih => exact ih.cons_cons _
  | failed _ _ _ ih => exact ih.cons _

theorem ensures_legLoop {x : Ctx} {r : LegRun} (legs : List Leg) (delivered fbAmount : Nat)
    (s : ChainState) :
    Ensures (legLoop x r legs delivered fbAmount) s (fun p s' => ∃ filled absorbed,
      LegRuns x r legs s.ledger filled absorbed s'.ledger ∧ p.1 = delivered + deliveredBy filled ∧
        p.2 = fbAmount + absorbed ∧ s'.logs = s.logs ++ filled.map (legEvent x r) ∧
        s'.mark = s.mark) := by
  induction legs generalizing delivered fbAmount s with
  | nil => exact ⟨[], 0, .nil, rfl, rfl, by simp, rfl⟩
  | cons leg legs ih =>
      by_cases fallback : leg.venue = x.storage.fallbackSwapRouter
      · simp only [legLoop, if_pos fallback, Ensures, wp_bind, wp_checkedAdd,
          implies_true, and_true]
        intro _
        apply (ih _ _ s).mono
        rintro p s' ⟨filled, absorbed, runs, out, rest, logs, mark⟩
        exact ⟨filled, _, .routed fallback runs, out, by omega, logs, mark⟩
      · simp only [legLoop, if_neg fallback, Ensures, wp_bind, wp_balanceOf]
        rw [wp_attempt]
        unfold wp
        -- The leg either filled, or left nothing but its input to be absorbed.
        cases run : dispatchLeg x r leg (s.ledger.balance r.tokenOut_ (r.measuredAt x)) s with
        | ok legOut s₁ =>
            obtain ⟨leg_filled, silent⟩ := wp_ok ensures_dispatchVenue run
            show Ensures _ s₁ _
            simp only [Ensures, wp_bind, wp_checkedAdd, implies_true, and_true,
              emitSwapped, wp_emit]
            intro _
            apply (ih _ _ _).mono
            rintro p s' ⟨filled, absorbed, runs, out, rest, logs, mark⟩
            refine ⟨(leg, legOut) :: filled, absorbed, .filled fallback leg_filled runs,
              ?_, rest, ?_, mark.trans silent.2⟩
            · rw [out, deliveredBy_cons]
              omega
            · rw [logs, ChainState.emitted_logs, silent.1, List.map_cons, List.append_assoc]
              rfl
        | error e s₁ =>
            show Ensures _ (Rollback.rollback s s₁) _
            simp only [Ensures, wp_bind, wp_checkedAdd, implies_true, and_true]
            intro _
            apply (ih _ _ _).mono
            rintro p s' ⟨filled, absorbed, runs, out, rest, logs, mark⟩
            exact ⟨filled, _, .failed fallback ⟨s, e, s₁, rfl, run⟩ runs, out, by omega, logs, mark⟩

/-- The coalesced Uniswap leg, present exactly when something was absorbed. -/
def Absorbed (x : Ctx) (r : LegRun) (absorbed delivered : Nat) (L : Ledger) (out : Nat)
    (L' : Ledger) : Prop :=
  if absorbed = 0 then out = 0 ∧ L' = L
  else Exchanged x r.tokenIn_ r.tokenOut_ (x.storage.resolvedFee r.tokenIn_ r.tokenOut_) absorbed
      (r.amountOutMin - delivered) (r.measuredAt x) x.storage.fallbackSwapRouter L L' ∧
    L'.balance r.tokenOut_ (r.measuredAt x) = L.balance r.tokenOut_ (r.measuredAt x) + out ∧
    r.amountOutMin - delivered ≤ out

theorem ensures_settleRemainder {x : Ctx} {r : LegRun} {delivered absorbed : Nat}
    (nonzero : absorbed > 0) {s : ChainState} :
    Ensures (settleRemainder x r delivered absorbed) s (fun total s' => ∃ out,
      Absorbed x r absorbed delivered s.ledger out s'.ledger ∧ total = delivered + out ∧
        s'.logs = s.logs ++ [.swapped x.sender r.tokenIn r.tokenOut absorbed out r.swapFor
          x.storage.fallbackSwapRouter] ∧ s'.mark = s.mark) := by
  have floor : (if delivered ≥ r.amountOutMin then 0 else r.amountOutMin - delivered) =
      r.amountOutMin - delivered := by
    split <;> omega
  simp only [settleRemainder, floor, Ensures, wp_bind, wp_balanceOf]
  apply ensures_swapExactIn.mono
  rintro _ s₁ ⟨exchanged, silent⟩
  simp only [wp_checkedSub, wp_require, wp_checkedAdd, emitSwapped, wp_emit, wp_pure, implies_true,
    and_true, floor]
  intro covered enough _
  refine ⟨_, ?_, rfl, ?_, silent.2⟩
  · rw [Absorbed, if_neg (by omega)]
    exact ⟨exchanged, by rw [ChainState.emitted_ledger]; omega, enough⟩
  · rw [ChainState.emitted_logs, silent.1]

/-- What a run of the legs came to. -/
structure SplitFill where
  filled : List (Leg × Nat)
  absorbed : Nat
  fbOut : Nat

namespace SplitFill

def total (f : SplitFill) : Nat := deliveredBy f.filled + f.fbOut

/-- One event per leg that executed, the Uniswap one last. -/
def events (x : Ctx) (r : LegRun) (f : SplitFill) : List Event :=
  f.filled.map (legEvent x r) ++
    if f.absorbed = 0 then []
    else [.swapped x.sender r.tokenIn r.tokenOut f.absorbed f.fbOut r.swapFor
      x.storage.fallbackSwapRouter]

end SplitFill

/-- A successful `_executeLegs`, from the ledger `L₀` execution starts on. -/
structure LegsExecuted (x : Ctx) (r : LegRun) (legs : List Leg) (L₀ : Ledger) (f : SplitFill)
    (L' : Ledger) : Prop where
  allocated : allocatedBy legs = r.totalIn
  calls : ∃ L₁ L₂, LegRuns x r legs L₀ f.filled f.absorbed L₁ ∧
    Absorbed x r f.absorbed (deliveredBy f.filled) L₁ f.fbOut L₂ ∧
    Forwarded x r.tokenOut r.payTo f.total L₂ L'
  enough : r.amountOutMin ≤ f.total

theorem ensures_runLegs {x : Ctx} {r : LegRun} {legs : List Leg}
    (allocated : allocatedBy legs = r.totalIn) {s : ChainState} :
    Ensures (runLegs x r legs) s (fun out s' => ∃ f : SplitFill, out = f.total ∧
      LegsExecuted x r legs s.ledger f s'.ledger ∧ s'.logs = s.logs ++ f.events x r ∧
        s'.mark = s.ledger) := by
  simp only [runLegs, Ensures, wp_bind, wp_beginExecution]
  apply (ensures_legLoop legs 0 0 _).mono
  rintro p s₁ ⟨filled, absorbed, runs, delivered, input, logs, mark⟩
  rw [Nat.zero_add] at delivered input
  obtain ⟨legsOut, fbAmount⟩ := p
  subst delivered input
  -- From the settled remainder on, with or without a Uniswap leg.
  have finish : ∀ (out : Nat) (s₂ : ChainState),
      Absorbed x r fbAmount (deliveredBy filled) s₁.ledger out s₂.ledger →
      s₂.logs = s.logs ++ SplitFill.events x r ⟨filled, fbAmount, out⟩ → s₂.mark = s.ledger →
      Ensures (do
        require (deliveredBy filled + out ≥ r.amountOutMin)
          (.insufficientOutput r.amountOutMin (deliveredBy filled + out))
        forwardETH x r.tokenOut r.payTo (deliveredBy filled + out)
        return deliveredBy filled + out) s₂ (fun out s' => ∃ f : SplitFill, out = f.total ∧
          LegsExecuted x r legs s.ledger f s'.ledger ∧ s'.logs = s.logs ++ f.events x r ∧
            s'.mark = s.ledger) := by
    intro out s₂ settled logs₂ mark₂
    simp only [Ensures, wp_bind, wp_require, wp_pure, implies_true, and_true]
    intro enough
    apply ensures_forwardETH.mono
    rintro _ s₃ ⟨forwarded, still⟩
    exact ⟨⟨filled, fbAmount, out⟩, rfl, ⟨allocated, ⟨_, _, runs, settled, forwarded⟩, enough⟩,
      still.1.trans logs₂, still.2.trans mark₂⟩
  by_cases nonzero : fbAmount > 0
  · simp only [if_pos nonzero]
    rw [wp_bind]
    apply (ensures_settleRemainder nonzero).mono
    rintro total s₂ ⟨out, settled, sum, logs₂, mark₂⟩
    subst sum
    apply finish out s₂ settled
    · rw [logs₂, logs, SplitFill.events, if_neg (Nat.ne_of_gt nonzero), List.append_assoc]
    · exact mark₂.trans mark
  · have none : fbAmount = 0 := by omega
    simp only [if_neg nonzero]
    apply finish 0 s₁
    · rw [Absorbed, if_pos none]
      exact ⟨rfl, rfl⟩
    · rw [logs, SplitFill.events, if_pos none, List.append_nil]
    · exact mark

theorem wp_allocate (legs : List Leg) (allocated : Nat) {s : ChainState}
    {Q : Nat → ChainState → Prop} (h : Q (allocated + allocatedBy legs) s) :
    Ensures (lift (allocate legs allocated)) s Q := by
  induction legs generalizing allocated with
  | nil => exact h
  | cons leg legs ih =>
      unfold allocate checkedAdd
      split
      · apply ih
        rwa [Nat.add_assoc]
      · trivial

theorem ensures_executeLegs {x : Ctx} {r : LegRun} {legs : List Leg} {s : ChainState} :
    Ensures (executeLegs x r legs) s (fun out s' => ∃ f : SplitFill, out = f.total ∧
      LegsExecuted x r legs s.ledger f s'.ledger ∧ s'.logs = s.logs ++ f.events x r ∧
        s'.mark = s.ledger) := by
  simp only [executeLegs, Ensures, wp_bind]
  apply wp_allocate
  simp only [wp_require, implies_true, and_true]
  intro _ allocated
  rw [Nat.zero_add] at allocated
  exact ensures_runLegs allocated

/-! ## Pulling and planning -/

/-- What `_pullSplitFunds` takes from the caller. -/
def Pulled (x : Ctx) (tokenIn : Address) (amountIn : Nat) (L L' : Ledger) : Prop :=
  if tokenIn = ethSentinel then x.value = amountIn ∧ Step x (.deposit amountIn) L L'
  else x.value = 0 ∧ Step x (.safeTransferFrom tokenIn x.sender x.self amountIn) L L'

theorem ensures_pullSplitFunds {x : Ctx} {tokenIn tokenOut : Address} {amountIn : Nat}
    {s : ChainState} : Ensures (pullSplitFunds x tokenIn tokenOut amountIn) s (fun p s' =>
      p = (resolveToken tokenIn, resolveToken tokenOut) ∧
        resolveToken tokenIn ≠ resolveToken tokenOut ∧
        Pulled x tokenIn amountIn s.ledger s'.ledger ∧ Silent s s') := by
  simp only [pullSplitFunds, Ensures, wp_bind, wp_require, wp_ite, ensures_callExternal, wp_pure,
    implies_true, and_true]
  intro distinct
  constructor
  · intro eth attached _ L₁ deposited
    refine ⟨by rw [eth, resolveToken_sentinel], distinct, ?_, rfl, rfl⟩
    rw [Pulled, if_pos eth, ← attached]
    exact ⟨rfl, deposited.step⟩
  · intro token unattached _ L₁ pulled
    refine ⟨by rw [resolveToken_token token], distinct, ?_, rfl, rfl⟩
    rw [Pulled, if_neg token]
    exact ⟨unattached, pulled.step⟩

/-- The `LegRun` of a split, as the entrypoints build it. -/
def legRunOf (a : SwapArgs) (amountOutMin : Nat) (payTo : Address) : LegRun where
  tokenIn := a.tokenIn
  tokenIn_ := resolveToken a.tokenIn
  tokenOut := a.tokenOut
  tokenOut_ := resolveToken a.tokenOut
  totalIn := a.amountIn
  amountOutMin := amountOutMin
  payTo := payTo
  swapFor := a.recipient
  deadline := a.deadline

end PropAMM
