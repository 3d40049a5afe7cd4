import PropAMM.Router.Split
import PropAMM.Router.FrontendFees

/-! # The swap entrypoints -/

namespace PropAMM

open Txn FrontendFees

/-- Route to the fallback when nothing was priced or the best quote is too low. -/
def orFallback (x : Ctx) (best : Nat × Address) (minOut : Nat) : Address :=
  if best.2 = 0 ∨ best.1 < minOut then x.storage.fallbackSwapRouter else best.2

/-- Execute through `venue` and log. -/
def executeSwap (x : Ctx) (venue : Address) (a : SwapArgs) : RouterM (Nat × Address) := do
  let (amountOut, executedVenue) ← coreSwap x venue a
  emitSwapped x executedVenue a.tokenIn a.tokenOut a.amountIn amountOut a.recipient
  return (amountOut, executedVenue)

/-- Execute to the router itself at the gross minimum, skim, disburse and log. -/
def executeSwapWithFee (x : Ctx) (venue : Address) (a : SwapArgs) (grossMin : Nat)
    (fee : FrontendFee) : RouterM (Nat × Address) := do
  let (delivered, executedVenue) ← coreSwap x venue
    { a with amountOutMin := grossMin, recipient := x.self }
  let amountOut ← skimAndDisburse x a.tokenOut delivered fee a.recipient a.amountOutMin
  emitSwapped x executedVenue a.tokenIn a.tokenOut a.amountIn amountOut a.recipient
  return (amountOut, executedVenue)

def swapV1 (x : Ctx) (a : SwapArgs) : RouterM (Nat × Address) := guarded x fun x => do
  let best ← pickBestPropAMM x a.tokenIn a.tokenOut a.amountIn
  executeSwap x (orFallback x best a.amountOutMin) a

def swapWithFeeV1 (x : Ctx) (a : SwapArgs) (fee : FrontendFee) : RouterM (Nat × Address) :=
  guarded x fun x => do
    validateFee fee
    let grossMin ← lift (grossUp a.amountOutMin fee.bps)
    let best ← pickBestPropAMM x a.tokenIn a.tokenOut a.amountIn
    executeSwapWithFee x (orFallback x best grossMin) a grossMin fee

def swapViaVenueV1 (x : Ctx) (venue : Address) (a : SwapArgs) : RouterM (Nat × Address) :=
  guarded x fun x => do
    require (x.storage.isVenue venue) .unknownVenue
    executeSwap x venue a

def swapViaVenueWithFeeV1 (x : Ctx) (venue : Address) (a : SwapArgs) (fee : FrontendFee) :
    RouterM Nat :=
  guarded x fun x => do
    validateFee fee
    require (x.storage.isVenue venue) .unknownVenue
    let grossMin ← lift (grossUp a.amountOutMin fee.bps)
    let (amountOut, _) ← executeSwapWithFee x venue a grossMin fee
    return amountOut

def swapViaSelectedVenuesV1 (x : Ctx) (venues : List Address) (a : SwapArgs) :
    RouterM (Nat × Address) :=
  guarded x fun x => do
    let best ← pickBestVenueFrom x venues a.tokenIn a.tokenOut a.amountIn
    executeSwap x (orFallback x best a.amountOutMin) a

def swapViaSelectedVenuesWithFeeV1 (x : Ctx) (venues : List Address) (a : SwapArgs)
    (fee : FrontendFee) : RouterM (Nat × Address) :=
  guarded x fun x => do
    validateFee fee
    let grossMin ← lift (grossUp a.amountOutMin fee.bps)
    let best ← pickBestVenueFrom x venues a.tokenIn a.tokenOut a.amountIn
    executeSwapWithFee x (orFallback x best grossMin) a grossMin fee

/-- Pull, plan and execute; `amountOutMin` and `payTo` are on the gross basis. -/
def splitSwap (x : Ctx) (venueSet : List Address) (a : SwapArgs) (amountOutMin : Nat)
    (payTo : Address) : RouterM Nat := do
  let (tokenIn_, tokenOut_) ← pullSplitFunds x a.tokenIn a.tokenOut a.amountIn
  let legs ← planSplit x venueSet tokenIn_ tokenOut_ a.amountIn
  executeLegs x
    { tokenIn := a.tokenIn, tokenIn_, tokenOut := a.tokenOut, tokenOut_, totalIn := a.amountIn,
      amountOutMin, payTo, swapFor := a.recipient, deadline := a.deadline } legs

def swapSplitV1 (x : Ctx) (a : SwapArgs) : RouterM Nat := guarded x fun x => do
  require (x.timestamp ≤ a.deadline) .expired
  validateSplitParams a.amountIn
  let venueSet ← collectVenues x
  splitSwap x venueSet a a.amountOutMin a.recipient

def swapSplitWithFeeV1 (x : Ctx) (a : SwapArgs) (fee : FrontendFee) : RouterM Nat :=
  guarded x fun x => do
  validateFee fee
  require (x.timestamp ≤ a.deadline) .expired
  validateSplitParams a.amountIn
  let venueSet ← collectVenues x
  let grossMin ← lift (grossUp a.amountOutMin fee.bps)
  let deliveredGross ← splitSwap x venueSet a grossMin x.self
  skimAndDisburse x a.tokenOut deliveredGross fee a.recipient a.amountOutMin

/-! ## Calls -/

/-- A call to one of the swap entrypoints. -/
inductive SwapCall where
  | swapV1 (a : SwapArgs)
  | swapWithFeeV1 (a : SwapArgs) (fee : FrontendFee)
  | swapViaVenueV1 (venue : Address) (a : SwapArgs)
  | swapViaVenueWithFeeV1 (venue : Address) (a : SwapArgs) (fee : FrontendFee)
  | swapViaSelectedVenuesV1 (venues : List Address) (a : SwapArgs)
  | swapViaSelectedVenuesWithFeeV1 (venues : List Address) (a : SwapArgs) (fee : FrontendFee)
  | swapSplitV1 (a : SwapArgs)
  | swapSplitWithFeeV1 (a : SwapArgs) (fee : FrontendFee)
  deriving DecidableEq, Repr

namespace SwapCall

def args : SwapCall → SwapArgs
  | swapV1 a | swapWithFeeV1 a _ | swapViaVenueV1 _ a | swapViaVenueWithFeeV1 _ a _ => a
  | swapViaSelectedVenuesV1 _ a | swapViaSelectedVenuesWithFeeV1 _ a _ => a
  | swapSplitV1 a | swapSplitWithFeeV1 a _ => a

/-- Run the entrypoint and return its `amountOut`. -/
def run (x : Ctx) : SwapCall → RouterM Nat
  | swapV1 a => Prod.fst <$> PropAMM.swapV1 x a
  | swapWithFeeV1 a fee => Prod.fst <$> PropAMM.swapWithFeeV1 x a fee
  | swapViaVenueV1 venue a => Prod.fst <$> PropAMM.swapViaVenueV1 x venue a
  | swapViaVenueWithFeeV1 venue a fee => PropAMM.swapViaVenueWithFeeV1 x venue a fee
  | swapViaSelectedVenuesV1 venues a => Prod.fst <$> PropAMM.swapViaSelectedVenuesV1 x venues a
  | swapViaSelectedVenuesWithFeeV1 venues a fee =>
    Prod.fst <$> PropAMM.swapViaSelectedVenuesWithFeeV1 x venues a fee
  | swapSplitV1 a => PropAMM.swapSplitV1 x a
  | swapSplitWithFeeV1 a fee => PropAMM.swapSplitWithFeeV1 x a fee

end SwapCall

end PropAMM
