import Mathlib.Algebra.Order.BigOperators.Group.List
import Mathlib.Algebra.Order.Field.Rat
import Mathlib.Tactic.Linarith
import Mathlib.Tactic.Ring
import PropAMM.Lib.Txn
import PropAMM.Lib.EnumerableSet

/-! # The chain as the router sees it

Token and native balances, the router's own logs, and the calls it makes to
other contracts. What a foreign contract does is not modelled: the environment
answers each call, knowing every call made before it, and may revert or leave
any ledger behind. It reaches neither the router's storage nor its logs; the
calls that could are `restricted`, `nonReentrant` or self-only.

Two state components are ghosts, read by no function: `trace` records every
call made, reverted or not, and `mark` the ledger on which the execution phase
(or the disbursement of a fee swap) last began.
-/

namespace PropAMM

open Txn

abbrev Address := BitVec 160

/-- A 32-byte word of returned data. -/
abbrev Word := BitVec 256

def usdc : Address := 0xA0b86991c6218b36c1d19D4a2e9Eb0cE3606eB48
def usdt : Address := 0xdAC17F958D2ee523a2206206994597C13D831ec7
def weth : Address := 0xC02aaA39b223FE8D0A0e5C4F27eAD9083C756Cc2

/-- Passed as `tokenIn` or `tokenOut` to signal native ETH. -/
def ethSentinel : Address := 0xEeeeeEeeeEeEeeEeEeEeeEEEeeeeEeeeeeeeEEeE

/-! ## Ledgers -/

structure Ledger where
  /-- `balanceOf`, by token and holder. -/
  balance : Address → Address → Nat
  /-- Native ETH. -/
  native : Address → Nat
  /-- By token, owner and spender. -/
  allowance : Address → Address → Address → Nat

namespace Ledger

def credit (L : Ledger) (token who : Address) (amount : Nat) : Ledger :=
  { L with
    balance := fun t a => if t = token ∧ a = who then L.balance t a + amount else L.balance t a }

def debit (L : Ledger) (token who : Address) (amount : Nat) : Ledger :=
  { L with
    balance := fun t a => if t = token ∧ a = who then L.balance t a - amount else L.balance t a }

def move (L : Ledger) (token source target : Address) (amount : Nat) : Ledger :=
  (L.debit token source amount).credit token target amount

/-- Move native ETH. -/
def pay (L : Ledger) (source target : Address) (amount : Nat) : Ledger :=
  { L with native := fun a =>
      (if a = source then L.native a - amount else L.native a) + if a = target then amount else 0 }

def approve (L : Ledger) (token owner spender : Address) (amount : Nat) : Ledger :=
  { L with allowance := fun t o s =>
      if t = token ∧ o = owner ∧ s = spender then amount else L.allowance t o s }

@[simp] theorem pay_zero (L : Ledger) (source target : Address) : L.pay source target 0 = L := by
  simp [pay]

@[simp] theorem pay_balance (L : Ledger) (source target : Address) (amount : Nat) :
    (L.pay source target amount).balance = L.balance := rfl

@[simp] theorem pay_allowance (L : Ledger) (source target : Address) (amount : Nat) :
    (L.pay source target amount).allowance = L.allowance := rfl

theorem pay_native (L : Ledger) (source target : Address) (amount : Nat) (a : Address) :
    (L.pay source target amount).native a =
      (if a = source then L.native a - amount else L.native a) +
        if a = target then amount else 0 := rfl

theorem move_balance (L : Ledger) (token source target : Address) (amount : Nat) (t a : Address) :
    (L.move token source target amount).balance t a =
      if t = token then
        (if a = source then L.balance t a - amount else L.balance t a) +
          if a = target then amount else 0
      else L.balance t a := by
  by_cases ht : t = token
  · by_cases hr : a = target
    · simp only [move, debit, credit, ht, true_and, hr, and_self, if_true]
    · simp only [move, debit, credit, ht, true_and, hr, and_false, if_true, if_false, Nat.add_zero]
  · simp only [move, debit, credit, ht, false_and, if_false]

@[simp] theorem approve_balance (L : Ledger) (token owner spender : Address) (amount : Nat) :
    (L.approve token owner spender amount).balance = L.balance := rfl

@[simp] theorem approve_native (L : Ledger) (token owner spender : Address) (amount : Nat) :
    (L.approve token owner spender amount).native = L.native := rfl

theorem credit_balance (L : Ledger) (token holder : Address) (amount : Nat) (t who : Address) :
    (L.credit token holder amount).balance t who =
      L.balance t who + if token = t ∧ holder = who then amount else 0 := by
  simp only [credit, @eq_comm _ t, @eq_comm _ who]
  split <;> rfl

theorem debit_balance (L : Ledger) (token holder : Address) (amount : Nat) (t who : Address) :
    (L.debit token holder amount).balance t who =
      L.balance t who - if token = t ∧ holder = who then amount else 0 := by
  simp only [debit, @eq_comm _ t, @eq_comm _ who]
  split <;> rfl

@[simp] theorem credit_native (L : Ledger) (token who : Address) (amount : Nat) :
    (L.credit token who amount).native = L.native := rfl

@[simp] theorem credit_allowance (L : Ledger) (token who : Address) (amount : Nat) :
    (L.credit token who amount).allowance = L.allowance := rfl

@[simp] theorem debit_native (L : Ledger) (token who : Address) (amount : Nat) :
    (L.debit token who amount).native = L.native := rfl

@[simp] theorem debit_allowance (L : Ledger) (token who : Address) (amount : Nat) :
    (L.debit token who amount).allowance = L.allowance := rfl

end Ledger

/-! ## Calls, events and errors -/

/-- An operation of the router on another contract. Token operations are the
    `SafeERC20` ones, which revert unless the token accepts. A balance is read off the
    ledger, so neither `balanceOf` nor the router's calls to itself are among them. -/
inductive ExtCall where
  | safeTransfer (token target : Address) (amount : Nat)
  | safeTransferFrom (token source target : Address) (amount : Nat)
  | forceApprove (token spender : Address) (amount : Nat)
  /-- `IWETH(WETH).deposit{value: amount}()` -/
  | deposit (amount : Nat)
  /-- `IWETH(WETH).withdraw(amount)` -/
  | withdraw (amount : Nat)
  /-- `target.call{value: amount}("")` -/
  | sendValue (target : Address) (amount : Nat)
  /-- `ERC165Checker.supportsInterface(venue, type(IPropAMMFillable).interfaceId)` -/
  | supportsInterface (venue : Address)
  | quote (venue tokenIn tokenOut : Address) (amountIn : Nat)
  | quoteFillable (venue tokenIn tokenOut : Address) (amountIn : Nat)
  | swap (venue tokenIn tokenOut : Address) (amountIn minAmountOut : Nat) (recipient : Address)
      (deadline : Nat)
  | quoteExactInputSingle (quoter tokenIn tokenOut : Address) (amountIn fee : Nat)
  | exactInputSingle (swapRouter tokenIn tokenOut : Address) (fee : Nat) (recipient : Address)
      (amountIn amountOutMinimum : Nat)
  deriving DecidableEq, Repr

namespace ExtCall

/-- The contract whose code runs. -/
def callee : ExtCall → Address
  | safeTransfer token _ _ | safeTransferFrom token _ _ _ | forceApprove token _ _ => token
  | deposit _ | withdraw _ => weth
  | sendValue target _ => target
  | supportsInterface venue | quote venue _ _ _ | quoteFillable venue _ _ _ => venue
  | swap venue _ _ _ _ _ _ => venue
  | quoteExactInputSingle quoter _ _ _ _ => quoter
  | exactInputSingle swapRouter _ _ _ _ _ _ => swapRouter

/-- Native ETH sent along. -/
def value : ExtCall → Nat
  | deposit amount | sendValue _ amount => amount
  | _ => 0

end ExtCall

inductive Event where
  | swapped (sender tokenIn tokenOut : Address) (amountIn amountOut : Nat)
      (recipient marketMaker : Address)
  | frontendFeeCharged (feeRecipient tokenOut : Address) (feeAmount : Nat) (payer : Address)
  | fallbackSwapRouterUpdated (oldRouter newRouter : Address)
  | fallbackQuoterUpdated (oldQuoter newQuoter : Address)
  | fallbackFeeUpdated (oldFee newFee : Nat)
  | pairFeeUpdated (tokenA tokenB : Address) (oldFee newFee : Nat)
  | venueWhitelisted (venue : Address)
  | venueRemoved (venue : Address)
  | paused (account : Address)
  | unpaused (account : Address)
  deriving DecidableEq, Repr

/-- The errors the router raises itself, and `external` for what it passes on. -/
inductive RouterError where
  | onlySelf
  | unknownVenue
  | insufficientOutput (expectedAmount receivedAmount : Nat)
  | expired
  | noQuotesAvailable
  | invalidFallbackFee (fee : Nat)
  | zeroAddress
  | arrayLengthMismatch
  | venueAlreadyWhitelisted (venue : Address)
  | venueNotWhitelisted (venue : Address)
  | invalidValue (expected received : Nat)
  | ethTransferFailed
  | identicalTokens
  | zeroAmount
  | amountTooLarge (amount : Nat)
  | tooManyVenues (count : Nat)
  | quoteBalanceInvariantViolated
  | splitAllocationMismatch (amountIn allocated : Nat)
  | feeBpsTooHigh (requested max : Nat)
  /-- `PausableUpgradeable`, as the next one. -/
  | enforcedPause
  | expectedPause
  /-- `ReentrancyGuardTransient` -/
  | reentrancyGuardReentrantCall
  /-- `AccessManagedUpgradeable` -/
  | accessManagedUnauthorized (caller : Address)
  /-- A compiler-inserted check: 0x11 arithmetic, 0x12 division by zero, 0x32 index. -/
  | panicked (code : Nat)
  /-- A callee reverted, with data that may look like any error and is not kept here, or
      its returned data did not decode. -/
  | external
  deriving DecidableEq, Repr

/-- Answers the call made after `history` on the given ledger: a revert, or the
    returned data and the ledger left behind. -/
abbrev Env := (history : List ExtCall) → ExtCall → Ledger → Option (List Word × Ledger)

structure ChainState where
  ledger : Ledger
  /-- Events the router emitted. -/
  logs : List Event
  /-- Ghost: the calls made, newest first. -/
  trace : List ExtCall
  /-- Ghost: the ledger when the execution phase last began. -/
  mark : Ledger

/-- A reverted frame leaves no trace but the ghost one. -/
instance : Rollback ChainState := ⟨fun before failed => { before with trace := failed.trace }⟩

abbrev RouterM := EStateM RouterError ChainState

/-! ## Storage and call context -/

structure RouterStorage where
  fallbackSwapRouter : Address
  fallbackQuoter : Address
  fallbackFee : Nat
  /-- Keyed by the sorted pair, see `pairKey`. -/
  pairFee : Address × Address → Nat
  whitelistedVenues : EnumerableSet Address
  paused : Bool

/-- What a frame of the router's code can read: its environment, its own address
    and storage, and the transaction it runs in. -/
structure Ctx where
  env : Env
  self : Address
  storage : RouterStorage
  /-- `msg.sender` -/
  sender : Address
  /-- `msg.value` -/
  value : Nat
  /-- `block.timestamp` -/
  timestamp : Nat
  /-- The transient reentrancy flag. -/
  entered : Bool

/-- The frame of a self-call `this.f(..)`. -/
def Ctx.selfCall (x : Ctx) : Ctx := { x with sender := x.self, value := 0 }

/-- The frame of a `nonReentrant` body. -/
def Ctx.enter (x : Ctx) : Ctx := { x with entered := true }

@[simp] theorem Ctx.selfCall_env (x : Ctx) : x.selfCall.env = x.env := rfl
@[simp] theorem Ctx.selfCall_self (x : Ctx) : x.selfCall.self = x.self := rfl
@[simp] theorem Ctx.selfCall_storage (x : Ctx) : x.selfCall.storage = x.storage := rfl
@[simp] theorem Ctx.selfCall_sender (x : Ctx) : x.selfCall.sender = x.self := rfl
@[simp] theorem Ctx.enter_env (x : Ctx) : x.enter.env = x.env := rfl
@[simp] theorem Ctx.enter_self (x : Ctx) : x.enter.self = x.self := rfl
@[simp] theorem Ctx.enter_storage (x : Ctx) : x.enter.storage = x.storage := rfl
@[simp] theorem Ctx.enter_sender (x : Ctx) : x.enter.sender = x.sender := rfl
@[simp] theorem Ctx.enter_value (x : Ctx) : x.enter.value = x.value := rfl
@[simp] theorem Ctx.enter_timestamp (x : Ctx) : x.enter.timestamp = x.timestamp := rfl

/-- `whenNotPaused nonReentrant` -/
def guarded {α : Type} (x : Ctx) (body : Ctx → RouterM α) : RouterM α := do
  require (x.storage.paused = false) .enforcedPause
  require (x.entered = false) .reentrancyGuardReentrantCall
  body x.enter

end PropAMM
