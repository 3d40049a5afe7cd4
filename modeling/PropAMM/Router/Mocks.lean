import PropAMM.Router.Entrypoints

/-! # A chain of mock contracts

The environment the test suite builds: plain or fee-on-transfer ERC-20s, WETH,
propAMMs that deliver what they are told to, and a Uniswap router that pulls
exactly what was approved. Each mock is configured by a function of the request.
-/

namespace PropAMM

structure Mocks where
  router : Address
  /-- `MockPropAMM.quote`, `none` when it reverts. -/
  quote : Address → Nat → Option Nat
  /-- `MockThievingQuoteVenue`: what a quote burns of the router's `tokenIn`. -/
  stealAmount : Address → Nat
  /-- `MockFillablePropAMM.quoteFillable`, for the venues that support it. -/
  quoteFillable : Address → Nat → Option (Nat × Nat)
  /-- What `MockPropAMM.swap` mints to the recipient, `none` when it reverts. -/
  amountOutToDeliver : Address → Nat → Option Nat
  /-- `MockQuoterV2` -/
  quoterOut : Nat → Option Nat
  /-- `MockV3SwapRouter` -/
  swapRouterOut : Nat → Option Nat
  /-- `MockFeeOnTransferERC20`, zero for a plain token. -/
  transferFeeBps : Address → Nat

namespace Mocks

variable (m : Mocks)

/-- `transfer`: the receiver is credited net of the token's own fee, which is burned. -/
def transfer (token source target : Address) (amount : Nat) (L : Ledger) : Option Ledger :=
  if L.balance token source < amount then none
  else
    let burned := amount * m.transferFeeBps token / 10000
    some (((L.debit token source amount).credit token target (amount - burned)).credit token
      0xdead burned)

/-- `transferFrom`, spending the allowance. -/
def transferFrom (token source target spender : Address) (amount : Nat) (L : Ledger) :
    Option Ledger :=
  if L.allowance token source spender < amount then none
  else m.transfer token source target amount
    (L.approve token source spender (L.allowance token source spender - amount))

variable {m}

theorem transfer_native {token source target : Address} {amount : Nat} {L L' : Ledger}
    (h : m.transfer token source target amount L = some L') : L'.native = L.native := by
  unfold transfer at h
  split at h
  · cases h
  · cases h
    rfl

/-- What a transfer does to any balance: the token's own fee is burned. -/
theorem transfer_balance {token source target : Address} {amount : Nat} {L L' : Ledger}
    (t who : Address) (h : m.transfer token source target amount L = some L') :
    (L'.balance t who : ℤ) = L.balance t who + if token = t then
        (if target = who then ((amount - amount * m.transferFeeBps token / 10000 : ℕ) : ℤ) else 0) -
          (if source = who then (amount : ℤ) else 0) +
          if 0xdead = who then ((amount * m.transferFeeBps token / 10000 : ℕ) : ℤ) else 0
      else 0 := by
  unfold transfer at h
  by_cases short : L.balance token source < amount
  · rw [if_pos short] at h
    cases h
  · rw [if_neg short] at h
    cases h
    rw [Ledger.credit_balance, Ledger.credit_balance, Ledger.debit_balance]
    by_cases other : token = t
    · subst other
      simp only [true_and, if_true]
      by_cases leaves : source = who
      · subst leaves
        split_ifs <;> omega
      · split_ifs <;> omega
    · simp only [other, false_and, if_false, Nat.sub_zero, add_zero]

theorem transferFrom_balance {token source target spender : Address} {amount : Nat} {L L' : Ledger}
    (t who : Address) (h : m.transferFrom token source target spender amount L = some L') :
    (L'.balance t who : ℤ) = L.balance t who + if token = t then
        (if target = who then ((amount - amount * m.transferFeeBps token / 10000 : ℕ) : ℤ) else 0) -
          (if source = who then (amount : ℤ) else 0) +
          if 0xdead = who then ((amount * m.transferFeeBps token / 10000 : ℕ) : ℤ) else 0
      else 0 := by
  unfold transferFrom at h
  split at h
  · cases h
  · have moved := transfer_balance t who h
    rwa [Ledger.approve_balance] at moved

theorem transferFrom_native {token source target spender : Address} {amount : Nat} {L L' : Ledger}
    (h : m.transferFrom token source target spender amount L = some L') : L'.native = L.native := by
  unfold transferFrom at h
  split at h
  · cases h
  · have moved := transfer_native h
    exact moved

variable (m)

def word (n : Nat) : Word := BitVec.ofNat 256 n

theorem word_toNat {n : Nat} (h : n < 2 ^ 256) : (word n).toNat = n := by
  rw [word, BitVec.toNat_ofNat, Nat.mod_eq_of_lt h]

def env : Env := fun _ c L =>
  match c with
  | .safeTransfer token target amount => (m.transfer token m.router target amount L).map ([], ·)
  | .safeTransferFrom token source target amount =>
    (m.transferFrom token source target m.router amount L).map ([], ·)
  | .forceApprove token spender amount => some ([], L.approve token m.router spender amount)
  | .deposit amount => some ([], L.credit weth m.router amount)
  | .withdraw amount =>
    if L.balance weth m.router < amount then none
    else some ([], (L.debit weth m.router amount).pay weth m.router amount)
  -- WETH's `receive` mints; any other account just keeps the ETH.
  | .sendValue target amount =>
      some ([], if target = weth then L.credit weth m.router amount else L)
  | .supportsInterface venue => some ([if (m.quoteFillable venue 0).isSome then 1 else 0], L)
  | .quote venue tokenIn _ amountIn =>
    if L.balance tokenIn m.router < m.stealAmount venue then none
    else (m.quote venue amountIn).map fun q =>
      ([word q], L.debit tokenIn m.router (m.stealAmount venue))
  | .quoteFillable venue _ _ amountIn =>
    (m.quoteFillable venue amountIn).map fun q => ([word q.1, word q.2], L)
  | .swap venue _ tokenOut amountIn _ recipient _ =>
    (m.amountOutToDeliver venue amountIn).map fun out =>
      ([word out], L.credit tokenOut recipient out)
  | .quoteExactInputSingle _ _ _ amountIn _ =>
    (m.quoterOut amountIn).map fun q => ([word q, 0, 0, 0], L)
  | .exactInputSingle swapRouter tokenIn tokenOut _ recipient amountIn _ => do
    let L ← m.transferFrom tokenIn m.router swapRouter swapRouter amountIn L
    let out ← m.swapRouterOut amountIn
    return ([word out], L.credit tokenOut recipient out)

/-- A call by `sender`, with `value` attached, to the router deployed on this chain. -/
def ctx (whitelist : EnumerableSet Address) (sender : Address) (value : Nat) : Ctx where
  env := m.env
  self := m.router
  storage :=
    { fallbackSwapRouter := 0xFB, fallbackQuoter := 0xFC, fallbackFee := 3000,
      pairFee := fun _ => 0, whitelistedVenues := whitelist, paused := false }
  sender := sender
  value := value
  timestamp := 0
  entered := false

/-- Plain tokens, propAMMs that deliver what they quote, and Uniswap at one for one. -/
def plain (quote : Address → Nat → Option Nat) : Mocks where
  router := 0x50
  quote := quote
  stealAmount _ := 0
  quoteFillable _ _ := none
  amountOutToDeliver := quote
  quoterOut := some
  swapRouterOut := some
  transferFeeBps _ := 0

end Mocks

/-- Account `0xCA` holds `amount` of everything and has approved everyone. -/
def Ledger.funded (amount : Nat) : Ledger where
  balance _ a := if a = 0xCA then amount else 0
  native a := if a = 0xCA then amount else 0
  allowance _ o _ := if o = 0xCA then amount else 0

/-- Before any call. -/
def ChainState.start (L : Ledger) : ChainState :=
  { ledger := L, logs := [], trace := [], mark := L }

end PropAMM
