import PropAMM.Router.Quotes

/-! # Single-venue execution -/

namespace PropAMM

open Txn

/-- The six arguments every swap entrypoint takes. -/
structure SwapArgs where
  tokenIn : Address
  tokenOut : Address
  amountIn : Nat
  amountOutMin : Nat
  recipient : Address
  deadline : Nat
  deriving DecidableEq, Repr

/-- Unwrap `amount` WETH and send it on, unless it is to stay here. -/
def sendWrappedETH (x : Ctx) (target : Address) (amount : Nat) : RouterM PUnit := do
  let _ ← callExternal x (.withdraw amount)
  if target ≠ x.self then sendETH x target amount

/-- The proceeds arrive as WETH when the caller asked for ETH. -/
def forwardETH (x : Ctx) (tokenOut target : Address) (amount : Nat) : RouterM PUnit :=
  if tokenOut = ethSentinel then sendWrappedETH x target amount else pure ⟨⟩

def emitSwapped (x : Ctx) (marketMaker tokenIn tokenOut : Address) (amountIn amountOut : Nat)
    (recipient : Address) : RouterM PUnit :=
  emit (.swapped x.sender tokenIn tokenOut amountIn amountOut recipient marketMaker)

/-- Push `amountIn` from `payer` to the venue, let it swap, and measure what
    `recipient` received since the snapshot. Self-only. -/
def dispatchVenue (x : Ctx) (venue tokenIn tokenOut : Address) (amountIn amountOutMin : Nat)
    (payer recipient : Address) (deadline prevTokenOutBalance : Nat) : RouterM Nat := do
  require (x.sender = x.self) .onlySelf
  require (x.storage.isWhitelistedVenue venue) .unknownVenue
  let _ ← callExternal x (if payer = x.self then .safeTransfer tokenIn venue amountIn
    else .safeTransferFrom tokenIn payer venue amountIn)
  let ret ← callExternal x (.swap venue tokenIn tokenOut amountIn amountOutMin recipient deadline)
  let _ ← decode (uintOf ret)
  let balance ← balanceOf tokenOut recipient
  let amountOut ← lift (checkedSub balance prevTokenOutBalance)
  require (amountOut ≥ amountOutMin) (.insufficientOutput amountOutMin amountOut)
  return amountOut

/-- Wrap the attached ETH, or insist that none is attached. Returns the token to
    sell and the account it is taken from. -/
def wrapInput (x : Ctx) (tokenIn : Address) (amountIn : Nat) : RouterM (Address × Address) := do
  if tokenIn = ethSentinel then
    require (x.value = amountIn) (.invalidValue amountIn x.value)
    let _ ← callExternal x (.deposit x.value)
    return (weth, x.self)
  else
    require (x.value = 0) (.invalidValue 0 x.value)
    return (tokenIn, x.sender)

/-- Where the proceeds are measured: the router itself when they must be unwrapped. -/
def measuredAt (x : Ctx) (tokenOut recipient : Address) : Address :=
  if tokenOut = ethSentinel then x.self else recipient

/-- The fallback half of `_coreSwap`: pull the input unless it was wrapped here,
    and swap it through Uniswap. -/
def coreFallback (x : Ctx) (a : SwapArgs) (tokenIn_ tokenOut_ recipient_ : Address)
    (prevTokenOutBalance : Nat) : RouterM (Nat × Address) := do
  if a.tokenIn ≠ ethSentinel then
    let _ ← callExternal x (.safeTransferFrom tokenIn_ x.sender x.self a.amountIn)
  let _ ← UniV3Router.swapExactIn x tokenIn_ tokenOut_ (x.storage.resolvedFee tokenIn_ tokenOut_)
    a.amountIn a.amountOutMin recipient_ x.storage.fallbackSwapRouter
  let balance ← balanceOf tokenOut_ recipient_
  let amountOut ← lift (checkedSub balance prevTokenOutBalance)
  require (amountOut ≥ a.amountOutMin) (.insufficientOutput a.amountOutMin amountOut)
  forwardETH x a.tokenOut a.recipient amountOut
  return (amountOut, x.storage.fallbackSwapRouter)

/-- `_coreSwap` from the snapshot on. -/
def coreExecute (x : Ctx) (venue : Address) (a : SwapArgs) (tokenIn_ payer : Address) :
    RouterM (Nat × Address) := do
  let tokenOut_ := resolveToken a.tokenOut
  let recipient_ := measuredAt x a.tokenOut a.recipient
  beginExecution
  let prevTokenOutBalance ← balanceOf tokenOut_ recipient_
  if venue ≠ x.storage.fallbackSwapRouter then
    match ← attempt (dispatchVenue x.selfCall venue tokenIn_ tokenOut_ a.amountIn a.amountOutMin
        payer recipient_ a.deadline prevTokenOutBalance) with
    | some amountOut =>
      forwardETH x a.tokenOut a.recipient amountOut
      return (amountOut, venue)
    | none => coreFallback x a tokenIn_ tokenOut_ recipient_ prevTokenOutBalance
  else coreFallback x a tokenIn_ tokenOut_ recipient_ prevTokenOutBalance

/-- Pull funds once and execute, attempting `venue` first and recovering through
    the fallback. -/
def coreSwap (x : Ctx) (venue : Address) (a : SwapArgs) : RouterM (Nat × Address) := do
  require (x.timestamp ≤ a.deadline) .expired
  let (tokenIn_, payer) ← wrapInput x a.tokenIn a.amountIn
  require (tokenIn_ ≠ resolveToken a.tokenOut) .identicalTokens
  coreExecute x venue a tokenIn_ payer

end PropAMM
