import PropAMM.Router.Config

/-! # The Uniswap V3 fallback

Single-hop exact-input swaps and quotes through SwapRouter02 and QuoterV2.
-/

namespace PropAMM.UniV3Router

open Txn

/-- Approve exactly `amountIn`, swap, and reset the approval whatever was pulled. -/
def swapExactIn (x : Ctx) (tokenIn tokenOut : Address) (fee amountIn amountOutMinimum : Nat)
    (recipient swapRouter : Address) : RouterM Nat := do
  let _ ← callExternal x (.forceApprove tokenIn swapRouter amountIn)
  let ret ← callExternal x
    (.exactInputSingle swapRouter tokenIn tokenOut fee recipient amountIn amountOutMinimum)
  let amountOut ← decode (uintOf ret)
  let _ ← callExternal x (.forceApprove tokenIn swapRouter 0)
  return amountOut

def quoteExactIn (x : Ctx) (tokenIn tokenOut : Address) (fee amountIn : Nat) (quoter : Address) :
    RouterM Nat := do
  let ret ← callExternal x (.quoteExactInputSingle quoter tokenIn tokenOut amountIn fee)
  decode (quoterOutOf ret)

end PropAMM.UniV3Router
