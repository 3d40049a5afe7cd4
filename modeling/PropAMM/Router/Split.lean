import PropAMM.Router.Swap
import PropAMM.Router.SplitPlanner

/-! # Splitting an order

Probing the whitelist, planning the legs, and running them. Loops over an array
recurse on the elements still to come; a fixed-size scratch array with a write
cursor is a list that may not outgrow its capacity.
-/

namespace PropAMM

open Txn

def maxLegs : Nat := 5

def maxSplitVenues : Nat := 12

structure Leg where
  venue : Address
  amountIn : Nat
  minOut : Nat
  deriving DecidableEq, Repr

/-- `tmp[count++] = v` -/
def appendWithin {α : Type} (capacity : Nat) (tmp : List α) (v : α) : Checked (List α) :=
  if tmp.length < capacity then .ok (tmp ++ [v]) else .error (.panicked 0x32)

/-! ## Probing -/

/-- A quote that reports failure as zero. -/
def tryQuote (x : Ctx) (venue tokenIn_ tokenOut_ : Address) (amount : Nat) : RouterM Nat := do
  match ← attempt (quoteVenueV1 x.selfCall venue tokenIn_ tokenOut_ amount) with
  | some (amountOut, _) => return amountOut
  | none => return 0

/-- An out-of-range quote is a dead point. -/
def clampU128 (out : Nat) : Nat := if out > maxU128 then 0 else out

/-- A static call that reports every failure as `false`. -/
def supportsInterface (x : Ctx) (venue : Address) : RouterM Bool := fun s =>
  .ok (if venue = x.self then false
    else match x.env s.trace (.supportsInterface venue) s.ledger with
      | some (w :: _, _) => w != 0
      | _ => false) (s.recorded (.supportsInterface venue))

theorem wp_supportsInterface {x : Ctx} {venue : Address} {s : ChainState}
    {Q : Bool → ChainState → Prop} {E : RouterError → ChainState → Prop}
    (h : ∀ b, Q b (s.recorded (.supportsInterface venue))) :
    wp (supportsInterface x venue) s Q E := h _

/-- Self-only. -/
def quoteFillableUnchecked (x : Ctx) (venue tokenIn_ tokenOut_ : Address) (amountIn : Nat) :
    RouterM (Nat × Nat) := do
  require (x.sender = x.self) .onlySelf
  let ret ← callExternal x (.quoteFillable venue tokenIn_ tokenOut_ amountIn)
  decode (uintPairOf ret)

/-- The halvings still allowed, from the last size tried. -/
def probeDownLoop (x : Ctx) (venue tokenIn_ tokenOut_ : Address) (ceiling : Nat) :
    (steps size : Nat) → RouterM (Nat × Nat)
  | 0, _ => pure (0, 0)
  | steps + 1, size => do
    let size := size / 2
    if size = 0 then return (0, 0)
    else
      let outAt ← tryQuote x venue tokenIn_ tokenOut_ size
      if outAt = 0 ∨ outAt > maxU128 then return (0, 0)
      else if outAt < ceiling then return (size, outAt)
      else probeDownLoop x venue tokenIn_ tokenOut_ ceiling steps size

def probeDownToFillable (x : Ctx) (venue tokenIn_ tokenOut_ : Address) (start ceiling : Nat) :
    RouterM (Nat × Nat) :=
  probeDownLoop x venue tokenIn_ tokenOut_ ceiling SplitPlanner.maxSaturationSteps start

/-- The two-point probe of a venue without the extension. -/
def probeBlind (x : Ctx) (venue tokenIn_ tokenOut_ : Address) (amountIn : Nat) :
    RouterM (Nat × Nat) := do
  let p := amountIn
  let outFull := clampU128 (← tryQuote x venue tokenIn_ tokenOut_ p)
  let half := p / 2
  if half = 0 then return (p, outFull)
  else
    let outHalf := clampU128 (← tryQuote x venue tokenIn_ tokenOut_ half)
    if outFull = 0 ∧ outHalf = 0 then return (0, 0)
    else if outFull = 0 then return (half, outHalf)
    else if outHalf = 0 then return (p, outFull)
    else if outFull = outHalf then probeDownToFillable x venue tokenIn_ tokenOut_ half outFull
    else if ← lift (SplitPlanner.isSaturated outFull outHalf) then return (half, outHalf)
    else return (p, outFull)

def probeVenue (x : Ctx) (venue tokenIn_ tokenOut_ : Address) (amountIn : Nat) :
    RouterM (Nat × Nat) := do
  if ¬ x.storage.isVenue venue then return (0, 0)
  else if ← supportsInterface x venue then
    match ← attempt (quoteFillableUnchecked x.selfCall venue tokenIn_ tokenOut_ amountIn) with
    | some (fillable, amountOut) =>
      if fillable > amountIn then return (0, 0) else return (fillable, amountOut)
    | none => return (0, 0)
  else probeBlind x venue tokenIn_ tokenOut_ amountIn

/-- One candidate per venue still to come; `seen` are the venues already visited. -/
def gatherLoop (x : Ctx) (tokenIn_ tokenOut_ : Address) (amountIn capacity : Nat) :
    (seen rest : List Address) → List Candidate → RouterM (List Candidate)
  | _, [], tmp => pure tmp
  | seen, venue :: rest, tmp => do
    if venue ∈ seen ∨ venue = x.storage.fallbackSwapRouter then
      gatherLoop x tokenIn_ tokenOut_ amountIn capacity (venue :: seen) rest tmp
    else
      let (fill, out) ← probeVenue x venue tokenIn_ tokenOut_ amountIn
      if fill = 0 ∨ out = 0 ∨ out > maxU128 then
        gatherLoop x tokenIn_ tokenOut_ amountIn capacity (venue :: seen) rest tmp
      else
        let tmp ← lift (appendWithin capacity tmp ⟨venue, fill, out⟩)
        gatherLoop x tokenIn_ tokenOut_ amountIn capacity (venue :: seen) rest tmp

def gatherCandidates (x : Ctx) (venueSet : List Address) (tokenIn_ tokenOut_ : Address)
    (amountIn : Nat) : RouterM (List Candidate) :=
  gatherLoop x tokenIn_ tokenOut_ amountIn venueSet.length [] venueSet []

/-! ## Planning -/

/-- The variables of the waterfall loop; `legCount` is the length of `legs`. -/
structure Waterfall where
  refSize : Nat
  refOut : Nat
  refined : Bool
  remaining : Nat
  legs : List Leg
  deriving DecidableEq, Repr

/-- The candidate's rate does not beat the reference. -/
def contested (c : Candidate) (refSize refOut : Nat) : Checked Bool := do
  let lhs ← checkedMul c.out refSize
  let rhs ← checkedMul refOut c.fill
  return lhs ≤ rhs

/-- Re-quote the reference at the true remainder, adopting it only when usable. -/
def refineReference (x : Ctx) (tokenIn_ tokenOut_ : Address) (w : Waterfall) :
    RouterM Waterfall := do
  let newOut ← tryQuote x x.storage.fallbackSwapRouter tokenIn_ tokenOut_ w.remaining
  if newOut ≠ 0 ∧ newOut ≤ maxU128 then
    return { w with refined := true, refSize := w.remaining, refOut := newOut }
  else return { w with refined := true }

/-- The cutoff: `none` breaks out of the loop. -/
def cutoff (x : Ctx) (tokenIn_ tokenOut_ : Address) (c : Candidate) (w : Waterfall) :
    RouterM (Option Waterfall) := do
  if ← lift (contested c w.refSize w.refOut) then
    if w.refined then return none
    else
      let w ← refineReference x tokenIn_ tokenOut_ w
      if ← lift (contested c w.refSize w.refOut) then return none else return some w
  else return some w

def placeLeg (capacity : Nat) (c : Candidate) (w : Waterfall) : Checked Waterfall := do
  let leg := if c.fill ≥ w.remaining then w.remaining else c.fill
  let minOut ← SplitPlanner.proRataMin c.out c.fill leg
  let legs ← appendWithin capacity w.legs ⟨c.venue, leg, minOut⟩
  let remaining ← checkedSub w.remaining leg
  return { w with legs, remaining }

def waterfallLoop (x : Ctx) (tokenIn_ tokenOut_ : Address) (capacity : Nat) :
    List Candidate → Waterfall → RouterM Waterfall
  | [], w => pure w
  | c :: rest, w => do
    if w.remaining > 0 ∧ w.legs.length < maxLegs then
      match ← cutoff x tokenIn_ tokenOut_ c w with
      | none => return w
      | some w =>
        let w ← lift (placeLeg capacity c w)
        waterfallLoop x tokenIn_ tokenOut_ capacity rest w
    else return w

/-- What the placeable candidates could leave over. -/
def residualLowerBound (cands : List Candidate) (amountIn : Nat) : Nat :=
  (cands.take maxLegs).foldl (fun residual c => if c.fill ≥ residual then 0 else residual - c.fill)
    amountIn

def referenceSize (cands : List Candidate) (amountIn : Nat) : Nat :=
  let residualLb := residualLowerBound cands amountIn
  let refSize := if residualLb > amountIn / 100 then residualLb else amountIn / 100
  if refSize = 0 then 1 else refSize

def waterfall (x : Ctx) (cands : List Candidate) (tokenIn_ tokenOut_ : Address) (amountIn : Nat) :
    RouterM (List Leg) := do
  let fb := x.storage.fallbackSwapRouter
  if cands.length = 0 then return [⟨fb, amountIn, 0⟩]
  else
    let refSize := referenceSize cands amountIn
    let refOut := clampU128 (← tryQuote x fb tokenIn_ tokenOut_ refSize)
    let capacity := cands.length + 1
    let w ← waterfallLoop x tokenIn_ tokenOut_ capacity cands
      { refSize, refOut, refined := false, remaining := amountIn, legs := [] }
    if w.remaining > 0 then lift (appendWithin capacity w.legs ⟨fb, w.remaining, 0⟩)
    else return w.legs

/-- The quote phase of `_planSplit`, inside its balance bracket. -/
def planLegs (x : Ctx) (venueSet : List Address) (tokenIn_ tokenOut_ : Address) (amountIn : Nat) :
    RouterM (List Leg) := do
  let cands ← gatherCandidates x venueSet tokenIn_ tokenOut_ amountIn
  let cands ← lift (SplitPlanner.sortByRateDesc cands)
  waterfall x cands tokenIn_ tokenOut_ amountIn

def planSplit (x : Ctx) (venueSet : List Address) (tokenIn_ tokenOut_ : Address) (amountIn : Nat) :
    RouterM (List Leg) := do
  let snap ← balanceOf tokenIn_ x.self
  let legs ← planLegs x venueSet tokenIn_ tokenOut_ amountIn
  let balance ← balanceOf tokenIn_ x.self
  require (balance ≥ snap) .quoteBalanceInvariantViolated
  return legs

/-! ## Execution -/

structure LegRun where
  /-- Caller-visible, may be the ETH sentinel. -/
  tokenIn : Address
  /-- The ERC-20 the legs sell. -/
  tokenIn_ : Address
  tokenOut : Address
  tokenOut_ : Address
  totalIn : Nat
  amountOutMin : Nat
  /-- Where the proceeds end up. -/
  payTo : Address
  /-- The user named by the events. -/
  swapFor : Address
  deadline : Nat

def validateSplitParams (amountIn : Nat) : RouterM PUnit := do
  require (amountIn > 0) .zeroAmount
  require (amountIn ≤ maxU128) (.amountTooLarge amountIn)

def isSplitAvailable (st : RouterStorage) : Bool := st.whitelistedVenueCount ≤ maxSplitVenues

def collectVenues (x : Ctx) : RouterM (List Address) := do
  let n := x.storage.whitelistedVenueCount
  require (n ≤ maxSplitVenues) (.tooManyVenues n)
  return x.storage.getWhitelistedVenues

def pullSplitFunds (x : Ctx) (tokenIn tokenOut : Address) (amountIn : Nat) :
    RouterM (Address × Address) := do
  let tokenOut_ := resolveToken tokenOut
  require (resolveToken tokenIn ≠ tokenOut_) .identicalTokens
  if tokenIn = ethSentinel then
    require (x.value = amountIn) (.invalidValue amountIn x.value)
    let _ ← callExternal x (.deposit x.value)
    return (weth, tokenOut_)
  else
    require (x.value = 0) (.invalidValue 0 x.value)
    let _ ← callExternal x (.safeTransferFrom tokenIn x.sender x.self amountIn)
    return (tokenIn, tokenOut_)

def allocate : List Leg → Nat → Checked Nat
  | [], allocated => .ok allocated
  | leg :: legs, allocated => do
    let allocated ← checkedAdd allocated leg.amountIn
    allocate legs allocated

def LegRun.measuredAt (r : LegRun) (x : Ctx) : Address := PropAMM.measuredAt x r.tokenOut r.payTo

/-- One leg through its venue, paid from the router's own balance. -/
def dispatchLeg (x : Ctx) (r : LegRun) (leg : Leg) (prevBal : Nat) : RouterM Nat :=
  dispatchVenue x.selfCall leg.venue r.tokenIn_ r.tokenOut_ leg.amountIn leg.minOut x.self
    (r.measuredAt x) r.deadline prevBal

/-- The legs still to run, with what was delivered and what Uniswap must absorb. -/
def legLoop (x : Ctx) (r : LegRun) : List Leg → (delivered fbAmount : Nat) → RouterM (Nat × Nat)
  | [], delivered, fbAmount => pure (delivered, fbAmount)
  | leg :: legs, delivered, fbAmount => do
    if leg.venue = x.storage.fallbackSwapRouter then
      let fbAmount ← lift (checkedAdd fbAmount leg.amountIn)
      legLoop x r legs delivered fbAmount
    else
      let prevBal ← balanceOf r.tokenOut_ (r.measuredAt x)
      match ← attempt (dispatchLeg x r leg prevBal) with
      | some legOut =>
        let delivered ← lift (checkedAdd delivered legOut)
        emitSwapped x leg.venue r.tokenIn r.tokenOut leg.amountIn legOut r.swapFor
        legLoop x r legs delivered fbAmount
      | none =>
        let fbAmount ← lift (checkedAdd fbAmount leg.amountIn)
        legLoop x r legs delivered fbAmount

/-- The coalesced Uniswap leg. Returns what it delivered. -/
def settleRemainder (x : Ctx) (r : LegRun) (delivered fbAmount : Nat) : RouterM Nat := do
  let fb := x.storage.fallbackSwapRouter
  let uniMin := if delivered ≥ r.amountOutMin then 0 else r.amountOutMin - delivered
  let prevBal ← balanceOf r.tokenOut_ (r.measuredAt x)
  let _ ← UniV3Router.swapExactIn x r.tokenIn_ r.tokenOut_
    (x.storage.resolvedFee r.tokenIn_ r.tokenOut_) fbAmount uniMin (r.measuredAt x) fb
  let balance ← balanceOf r.tokenOut_ (r.measuredAt x)
  let fbOut ← lift (checkedSub balance prevBal)
  require (fbOut ≥ uniMin) (.insufficientOutput uniMin fbOut)
  let delivered ← lift (checkedAdd delivered fbOut)
  emitSwapped x fb r.tokenIn r.tokenOut fbAmount fbOut r.swapFor
  return delivered

/-- `_executeLegs` once the allocation has been validated. -/
def runLegs (x : Ctx) (r : LegRun) (legs : List Leg) : RouterM Nat := do
  beginExecution
  let (delivered, fbAmount) ← legLoop x r legs 0 0
  let delivered ← if fbAmount > 0 then settleRemainder x r delivered fbAmount else pure delivered
  require (delivered ≥ r.amountOutMin) (.insufficientOutput r.amountOutMin delivered)
  forwardETH x r.tokenOut r.payTo delivered
  return delivered

def executeLegs (x : Ctx) (r : LegRun) (legs : List Leg) : RouterM Nat := do
  let allocated ← lift (allocate legs 0)
  require (legs.length > 0) (.splitAllocationMismatch r.totalIn allocated)
  require (allocated = r.totalIn) (.splitAllocationMismatch r.totalIn allocated)
  runLegs x r legs

end PropAMM
