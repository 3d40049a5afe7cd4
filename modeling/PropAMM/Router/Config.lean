import PropAMM.Router.Calls

/-! # Fallback configuration and the venue whitelist

The router's storage, its views and its `restricted` mutators. A mutator either
returns the new storage with the events it emits or reverts.
-/

namespace PropAMM

open Txn

/-- Order-independent. The hash of the packed pair is taken to be the pair. -/
def pairKey (tokenA tokenB : Address) : Address × Address :=
  if tokenA < tokenB then (tokenA, tokenB) else (tokenB, tokenA)

namespace RouterStorage

def getPairFee (st : RouterStorage) (tokenA tokenB : Address) : Nat :=
  st.pairFee (pairKey tokenA tokenB)

def resolvedFee (st : RouterStorage) (tokenIn tokenOut : Address) : Nat :=
  let fee := st.pairFee (pairKey tokenIn tokenOut)
  if fee = 0 then st.fallbackFee else fee

def isWhitelistedVenue (st : RouterStorage) (venue : Address) : Prop := venue ∈ st.whitelistedVenues

instance (st : RouterStorage) (venue : Address) : Decidable (st.isWhitelistedVenue venue) :=
  inferInstanceAs (Decidable (venue ∈ st.whitelistedVenues))

def isVenue (st : RouterStorage) (venue : Address) : Prop :=
  st.isWhitelistedVenue venue ∨ venue = st.fallbackSwapRouter

instance (st : RouterStorage) (venue : Address) : Decidable (st.isVenue venue) :=
  inferInstanceAs (Decidable (_ ∨ _))

def getWhitelistedVenues (st : RouterStorage) : List Address := st.whitelistedVenues.values

def whitelistedVenueCount (st : RouterStorage) : Nat := st.whitelistedVenues.length

end RouterStorage

/-! ## Mutators -/

abbrev Mutation := Checked (RouterStorage × List Event)

def setPairFeeUnchecked (st : RouterStorage) (tokenA tokenB : Address) (fee : Nat) : Mutation :=
  -- 0 is allowed and clears the override.
  if fee < 1000000 then
    let key := pairKey tokenA tokenB
    .ok ({ st with pairFee := fun k => if k = key then fee else st.pairFee k },
      [.pairFeeUpdated tokenA tokenB (st.pairFee key) fee])
  else .error (.invalidFallbackFee fee)

def seedDefaultPairFees (st : RouterStorage) : Mutation := do
  let (st, e₁) ← setPairFeeUnchecked st usdt usdc 100
  let (st, e₂) ← setPairFeeUnchecked st usdt weth 500
  let (st, e₃) ← setPairFeeUnchecked st usdc weth 500
  return (st, e₁ ++ e₂ ++ e₃)

/-- The storage of a freshly created proxy. -/
def RouterStorage.blank : RouterStorage where
  fallbackSwapRouter := 0
  fallbackQuoter := 0
  fallbackFee := 0
  pairFee := fun _ => 0
  whitelistedVenues := .empty
  paused := false

/-- `initialize`: run once, by the proxy's constructor, on blank storage. -/
def initializeRouter (fallbackSwapRouter fallbackQuoter authority : Address) : Mutation := do
  if fallbackSwapRouter = 0 then throw .zeroAddress
  if fallbackQuoter = 0 then throw .zeroAddress
  if authority = 0 then throw .zeroAddress
  seedDefaultPairFees
    { RouterStorage.blank with fallbackSwapRouter, fallbackQuoter, fallbackFee := 3000 }

def setFallbackSwapRouter (st : RouterStorage) (newRouter : Address) : Mutation :=
  if newRouter = 0 then .error .zeroAddress
  else .ok ({ st with fallbackSwapRouter := newRouter },
    [.fallbackSwapRouterUpdated st.fallbackSwapRouter newRouter])

def setFallbackQuoter (st : RouterStorage) (newQuoter : Address) : Mutation :=
  if newQuoter = 0 then .error .zeroAddress
  else .ok ({ st with fallbackQuoter := newQuoter },
    [.fallbackQuoterUpdated st.fallbackQuoter newQuoter])

def setFallbackFee (st : RouterStorage) (fee : Nat) : Mutation :=
  if fee ≠ 0 ∧ fee < 1000000 then
    .ok ({ st with fallbackFee := fee }, [.fallbackFeeUpdated st.fallbackFee fee])
  else .error (.invalidFallbackFee fee)

def setPairFee (st : RouterStorage) (tokenA tokenB : Address) (fee : Nat) : Mutation :=
  setPairFeeUnchecked st tokenA tokenB fee

/-- The entries still to write, zipped. -/
def setPairFeesLoop (st : RouterStorage) : List ((Address × Address) × Nat) → Mutation
  | [] => .ok (st, [])
  | ((tokenA, tokenB), fee) :: rest => do
    let (st, e₁) ← setPairFeeUnchecked st tokenA tokenB fee
    let (st, e₂) ← setPairFeesLoop st rest
    return (st, e₁ ++ e₂)

def setPairFees (st : RouterStorage) (tokenA tokenB : List Address) (fees : List Nat) : Mutation :=
  if tokenA.length = tokenB.length ∧ tokenB.length = fees.length then
    setPairFeesLoop st ((tokenA.zip tokenB).zip fees)
  else .error .arrayLengthMismatch

def addVenue (st : RouterStorage) (venue : Address) : Mutation :=
  if venue = 0 then .error .zeroAddress
  else match st.whitelistedVenues.add venue with
    | some venues => .ok ({ st with whitelistedVenues := venues }, [.venueWhitelisted venue])
    | none => .error (.venueAlreadyWhitelisted venue)

def removeVenue (st : RouterStorage) (venue : Address) : Mutation :=
  match st.whitelistedVenues.remove venue with
  | some venues => .ok ({ st with whitelistedVenues := venues }, [.venueRemoved venue])
  | none => .error (.venueNotWhitelisted venue)

def pause (st : RouterStorage) (account : Address) : Mutation :=
  if st.paused then .error .enforcedPause else .ok ({ st with paused := true }, [.paused account])

def unpause (st : RouterStorage) (account : Address) : Mutation :=
  if st.paused then .ok ({ st with paused := false }, [.unpaused account])
    else .error .expectedPause

end PropAMM
