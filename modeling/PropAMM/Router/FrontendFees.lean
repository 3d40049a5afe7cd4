import PropAMM.Router.Calls

/-! # Frontend fees -/

namespace PropAMM

structure FrontendFee where
  bps : Nat
  recipient : Address
  deriving DecidableEq, Repr

namespace FrontendFees

open Txn

def maxFeeBps : Nat := 100

def bpsDenominator : Nat := 10000

def validateFee (fee : FrontendFee) : RouterM PUnit := do
  require (fee.bps ≤ maxFeeBps) (.feeBpsTooHigh fee.bps maxFeeBps)
  require (fee.recipient ≠ 0) .zeroAddress

/-- OpenZeppelin's `Math.ceilDiv`. -/
def ceilDiv (a b : Nat) : Checked Nat :=
  if b = 0 then .error (.panicked 0x12) else .ok (if a = 0 then 0 else (a - 1) / b + 1)

def grossUp (amountOutMin feeBps : Nat) : Checked Nat := do
  let scaled ← checkedMul amountOutMin bpsDenominator
  let kept ← checkedSub bpsDenominator feeBps
  ceilDiv scaled kept

def feeAmount (amount feeBps : Nat) : Checked Nat := do
  let scaled ← checkedMul amount feeBps
  checkedDiv scaled bpsDenominator

/-- First half of `_skimAndDisburse`: forward the fee. -/
def skim (x : Ctx) (tokenOut : Address) (feeAmt : Nat) (fee : FrontendFee) : RouterM PUnit := do
  if feeAmt > 0 then
    if tokenOut = ethSentinel then
      sendETH x fee.recipient feeAmt
    else
      let _ ← callExternal x (.safeTransfer tokenOut fee.recipient feeAmt)
    emit (.frontendFeeCharged fee.recipient tokenOut feeAmt x.sender)

/-- Second half: forward the net and measure what `recipient` received. -/
def disburse (x : Ctx) (tokenOut : Address) (net : Nat) (recipient : Address) : RouterM Nat := do
  if tokenOut = ethSentinel then
    if net > 0 then sendETH x recipient net
    return net
  else
    let prevBalance ← balanceOf tokenOut recipient
    if net > 0 then
      let _ ← callExternal x (.safeTransfer tokenOut recipient net)
    let balance ← balanceOf tokenOut recipient
    lift (checkedSub balance prevBalance)

def skimAndDisburse (x : Ctx) (tokenOut : Address) (delivered : Nat) (fee : FrontendFee)
    (recipient : Address) (amountOutMin : Nat) : RouterM Nat := do
  let feeAmt ← lift (feeAmount delivered fee.bps)
  let net ← lift (checkedSub delivered feeAmt)
  skim x tokenOut feeAmt fee
  beginExecution
  let net ← disburse x tokenOut net recipient
  require (net ≥ amountOutMin) (.insufficientOutput amountOutMin net)
  return net

end FrontendFees

end PropAMM
