import PropAMM.Router.UniV3Router

/-! # Quotes and venue selection -/

namespace PropAMM

open Txn

/-- Resolve the ETH sentinel to the token that actually trades. -/
def resolveToken (token : Address) : Address := if token = ethSentinel then weth else token

@[simp] theorem resolveToken_sentinel : resolveToken ethSentinel = weth := if_pos rfl

theorem resolveToken_token {token : Address} (h : token ≠ ethSentinel) :
    resolveToken token = token :=
  if_neg h

def quoteVenue (x : Ctx) (venue tokenIn tokenOut : Address) (amount : Nat) : RouterM Nat :=
  let tokenIn := resolveToken tokenIn
  let tokenOut := resolveToken tokenOut
  if venue = x.storage.fallbackSwapRouter then
    UniV3Router.quoteExactIn x tokenIn tokenOut (x.storage.resolvedFee tokenIn tokenOut) amount
      x.storage.fallbackQuoter
  else do
    let ret ← callExternal x (.quote venue tokenIn tokenOut amount)
    decode (uintOf ret)

def quoteVenueV1 (x : Ctx) (venue tokenIn tokenOut : Address) (amount : Nat) :
    RouterM (Nat × Address) := do
  require (x.storage.isVenue venue) .unknownVenue
  let amountOut ← quoteVenue x venue tokenIn tokenOut amount
  return (amountOut, venue)

/-- Self-only, without the whitelist gate. -/
def quoteVenueUnchecked (x : Ctx) (venue tokenIn tokenOut : Address) (amount : Nat) :
    RouterM Nat := do
  require (x.sender = x.self) .onlySelf
  quoteVenue x venue tokenIn tokenOut amount

/-- The quote replaces the best one only when strictly better. -/
def keepBest (best : Nat × Address) (amountOut : Nat) (candidate : Address) : Nat × Address :=
  if amountOut > best.1 then (amountOut, candidate) else best

/-- The loop of `pickBestPropAMM` over the remaining whitelist. -/
def pickBestPropAMMLoop (x : Ctx) (tokenIn tokenOut : Address) (amount : Nat) :
    List Address → Nat × Address → RouterM (Nat × Address)
  | [], best => pure best
  | candidate :: rest, best => do
    match ← attempt (quoteVenueUnchecked x.selfCall candidate tokenIn tokenOut amount) with
    | some amountOut =>
        pickBestPropAMMLoop x tokenIn tokenOut amount rest (keepBest best amountOut candidate)
    | none => pickBestPropAMMLoop x tokenIn tokenOut amount rest best

/-- `(0, address(0))` when no whitelisted propAMM can be priced. -/
def pickBestPropAMM (x : Ctx) (tokenIn tokenOut : Address) (amount : Nat) :
    RouterM (Nat × Address) :=
  pickBestPropAMMLoop x tokenIn tokenOut amount x.storage.getWhitelistedVenues (0, 0)

def pickBestVenue (x : Ctx) (tokenIn tokenOut : Address) (amount : Nat) :
    RouterM (Nat × Address) := do
  let (bestQuote, venue) ← pickBestPropAMM x tokenIn tokenOut amount
  let fallbackRouter := x.storage.fallbackSwapRouter
  let venue := if venue = 0 then fallbackRouter else venue
  match ← attempt (quoteVenueUnchecked x.selfCall fallbackRouter tokenIn tokenOut amount) with
  | some amountOut => return keepBest (bestQuote, venue) amountOut fallbackRouter
  | none => return (bestQuote, venue)

/-- The loop of `pickBestVenueFrom` over the remaining caller-supplied venues. -/
def pickBestVenueFromLoop (x : Ctx) (tokenIn tokenOut : Address) (amount : Nat) :
    List Address → Nat × Address → RouterM (Nat × Address)
  | [], best => pure best
  | venue :: rest, best => do
    match ← attempt (quoteVenueV1 x.selfCall venue tokenIn tokenOut amount) with
    | some (amountOut, _) =>
        pickBestVenueFromLoop x tokenIn tokenOut amount rest (keepBest best amountOut venue)
    | none => pickBestVenueFromLoop x tokenIn tokenOut amount rest best

def pickBestVenueFrom (x : Ctx) (venues : List Address) (tokenIn tokenOut : Address)
    (amount : Nat) : RouterM (Nat × Address) :=
  pickBestVenueFromLoop x tokenIn tokenOut amount venues (0, 0)

def quoteV1 (x : Ctx) (tokenIn tokenOut : Address) (amount : Nat) : RouterM (Nat × Address) := do
  let (bestQuote, venue) ← pickBestVenue x tokenIn tokenOut amount
  require (bestQuote > 0) .noQuotesAvailable
  return (bestQuote, venue)

def quoteSelectedVenuesV1 (x : Ctx) (venues : List Address) (tokenIn tokenOut : Address)
    (amountIn : Nat) : RouterM (Nat × Address) := do
  let (bestAmountOut, bestVenue) ← pickBestVenueFrom x venues tokenIn tokenOut amountIn
  require (bestVenue ≠ 0) .noQuotesAvailable
  return (bestAmountOut, bestVenue)

end PropAMM
