import PropAMM.Router.Reverts
import PropAMM.Sdk.RouterAbi

/-! # What the bindings send

The `swap` of the three SDKs, up to the transaction that is handed to the node. They
refuse the same options and otherwise send the same: the entrypoint that the options
describe, with exactly the ETH it asks for.
-/

namespace PropAMM.Bindings

open PropAMM.Abi

/-- An error of the SDKs, by its kind. -/
inductive Error where
  | invalidInput (message : String)
  | client (message : String)
  | abi (message : String)
  | overrides (message : String)
  | revert (message : String) (data : Option Bytes)

/-- A fee as a frontend passes it. -/
structure FrontendFee where
  bps : Int
  recipient : Address

structure SwapOptions where
  venues : Option (List Address)
  frontendFee : Option FrontendFee
  gasLimit : Option Nat

/-- What is signed; without a gas limit the node estimates one. -/
structure Transaction (D : Type) where
  sender : Address
  target : Address
  data : D
  value : Nat
  gasLimit : Option Nat

/-- The libraries and the node under a client. -/
structure Client (D O : Type) where
  codec : Codec D
  signer : Option Address
  /-- `eth_call`, with the overrides it carries. -/
  ethCall : (target : Address) → D → O → Except Error Bytes
  /-- The simulation that precedes a write. -/
  simulateContract : (target : Address) → D → (value : Nat) → Except Error Unit

/-- `MAX_FEE_BPS` -/
def maxFeeBps : Int := 100

inductive VenueMode where
  | all
  | single
  | selected
  deriving DecidableEq

/-- A venue restriction as the mode and the leading arguments. -/
def venueDispatch (noVenues : String) :
    Option (List Address) → Except Error (VenueMode × List Value)
  | none => .ok (.all, [])
  | some [] => .error (.invalidInput noVenues)
  | some [venue] => .ok (.single, [.address venue])
  | some venues => .ok (.selected, [addressArray venues])

def validateFee (badBps : Int → String) (zeroRecipient : String) (fee : FrontendFee) :
    Except Error Unit :=
  if fee.bps < 1 ∨ maxFeeBps < fee.bps then .error (.invalidInput (badBps fee.bps))
  else if fee.recipient = 0 then .error (.invalidInput zeroRecipient)
  else .ok ⟨⟩

def FrontendFee.toValue (fee : FrontendFee) : Value :=
  .tuple [.uint fee.bps.toNat, .address fee.recipient]

variable {D O : Type}

/-- Encoding by name, with the signature looked up in the ABI. -/
def Client.encodeFunctionData (client : Client D O) (name : String) (args : List Value) :
    Except Error D :=
  match RouterFunction.ofName? name with
  | none => .error (.abi s!"function {name} not found")
  | some f => (client.codec.encodeCalldata f.signature args).mapError .abi

end PropAMM.Bindings

/-! ## Rust -/

namespace PropAMM.Rust.Router

open PropAMM.Abi Bindings

namespace Abi

def swap : String := "swapV1(address,address,uint256,uint256,address,uint256)"
def swapWithFee : String :=
  "swapWithFeeV1(address,address,uint256,uint256,address,uint256,(uint16,address))"
def swapViaVenue : String :=
  "swapViaVenueV1(address,address,address,uint256,uint256,address,uint256)"
def swapViaVenueWithFee : String :=
  "swapViaVenueWithFeeV1(address,address,address,uint256,uint256,address,uint256,(uint16,address))"
def swapViaSelectedVenues : String :=
  "swapViaSelectedVenuesV1(address[],address,address,uint256,uint256,address,uint256)"
def swapViaSelectedVenuesWithFee : String :=
  "swapViaSelectedVenuesWithFeeV1(address[],address,address,uint256,uint256,address,uint256,(uint16,address))"

end Abi

def gasLimitFor (signature : String) : Option Nat :=
  if signature = Abi.swap then some 700000
  else if signature = Abi.swapWithFee then some 750000
  else if signature = Abi.swapViaSelectedVenues then some 700000
  else if signature = Abi.swapViaSelectedVenuesWithFee then some 750000
  else if signature = Abi.swapViaVenue then some 500000
  else if signature = Abi.swapViaVenueWithFee then some 550000
  else none

def venueDispatch : Option (List Address) → Except Error (VenueMode × List Value) :=
  Bindings.venueDispatch "venues must not be empty — omit it to use every whitelisted venue"

def validateFee : Bindings.FrontendFee → Except Error Unit :=
  Bindings.validateFee (fun bps => s!"fee bps must be in [1, {maxFeeBps}], got {bps}")
    "fee recipient must not be the zero address"

variable {D O : Type} (client : Client D O)

def encode (signature : String) (args : List Value) : Except Error D :=
  (client.codec.encodeCalldata signature args).mapError fun e =>
    .abi s!"failed to encode {signature}: {e}"

def send (target : Address) (signature : String) (calldata : D) (value gasLimit : Option Nat) :
    Except Error (Transaction D) :=
  match client.signer with
  | none =>
      .error (.invalidInput "ContractClient was created without a signer; sends are unavailable")
  | some signer => .ok ⟨signer, target, calldata, value.getD 0, gasLimit.or (gasLimitFor signature)⟩

end PropAMM.Rust.Router

/-! ## Python -/

namespace PropAMM.Python.Router

open PropAMM.Abi Bindings

/-- `_SWAP_FUNCS` -/
def swapFuncs : VenueMode → String × String
  | .all => ("swapV1", "swapWithFeeV1")
  | .single => ("swapViaVenueV1", "swapViaVenueWithFeeV1")
  | .selected => ("swapViaSelectedVenuesV1", "swapViaSelectedVenuesWithFeeV1")

def gasLimitByFunction : List (String × Nat) := [
  ("swapV1", 700000),
  ("swapWithFeeV1", 750000),
  ("swapViaSelectedVenuesV1", 700000),
  ("swapViaSelectedVenuesWithFeeV1", 750000),
  ("swapViaVenueV1", 500000),
  ("swapViaVenueWithFeeV1", 550000)]

def venueDispatch : Option (List Address) → Except Error (VenueMode × List Value) :=
  Bindings.venueDispatch "venues must not be empty — omit it to use every whitelisted venue"

def validateFee : Bindings.FrontendFee → Except Error Unit :=
  Bindings.validateFee (fun bps => s!"fee bps must be an integer in [1, {maxFeeBps}], got {bps}")
    "fee recipient must not be the zero address"

variable {D O : Type} (client : Client D O)

def send (target : Address) (fnName : String) (data : D) (value gasLimit : Option Nat) :
    Except Error (Transaction D) :=
  match client.signer with
  | none => .error (.client "ContractClient was created without a signer; sends are unavailable")
  | some account =>
    let limit := match gasLimit with
      | some limit => some limit
      | none => gasLimitByFunction.lookup fnName
    .ok ⟨account, target, data, value.getD 0, limit⟩

def swap (router : Address) (params : SwapArgs) (opts : SwapOptions) :
    Except Error (Transaction D) := do
  let (mode, venueArgs) ← venueDispatch opts.venues
  let args := venueArgs ++ swapValues params
  let args ← match opts.frontendFee with
    | some fee => do
      validateFee fee
      .ok (args ++ [fee.toValue])
    | none => .ok args
  let (plain, withFee) := swapFuncs mode
  let name := if opts.frontendFee.isSome then withFee else plain
  let data ← client.encodeFunctionData name args
  let value := if params.tokenIn = ethSentinel then some params.amountIn else none
  send client router name data value opts.gasLimit

end PropAMM.Python.Router

/-! ## TypeScript -/

namespace PropAMM.TypeScript.Router

open PropAMM.Abi Bindings

structure SwapSelectors where
  plain : String
  withFee : String

def swapSelectors : VenueMode → SwapSelectors
  | .all => { plain := "swapV1", withFee := "swapWithFeeV1" }
  | .single => { plain := "swapViaVenueV1", withFee := "swapViaVenueWithFeeV1" }
  | .selected => { plain := "swapViaSelectedVenuesV1", withFee := "swapViaSelectedVenuesWithFeeV1" }

def gasLimitByFunction : List (String × Nat) := [
  ("swapV1", 700000),
  ("swapWithFeeV1", 750000),
  ("swapViaSelectedVenuesV1", 700000),
  ("swapViaSelectedVenuesWithFeeV1", 750000),
  ("swapViaVenueV1", 500000),
  ("swapViaVenueWithFeeV1", 550000)]

def venueDispatch : Option (List Address) → Except Error (VenueMode × List Value) :=
  Bindings.venueDispatch "venues must not be empty — omit it to use every whitelisted venue"

def validateFee : Bindings.FrontendFee → Except Error Unit :=
  Bindings.validateFee (fun bps => s!"fee bps must be an integer in [1, {maxFeeBps}], got {bps}")
    "fee recipient must not be the zero address"

variable {D O : Type} (client : Client D O)

/-- Simulates before it sends. -/
def write (target : Address) (functionName : String) (args : List Value)
    (value gasLimit : Option Nat) : Except Error (Transaction D) :=
  match client.signer with
  | none => .error (.client "ContractClient was created without an account; writes are unavailable")
  | some account => do
    let data ← client.encodeFunctionData functionName args
    client.simulateContract target data (value.getD 0)
    .ok ⟨account, target, data, value.getD 0, gasLimit.or (gasLimitByFunction.lookup functionName)⟩

def swap (router : Address) (params : SwapArgs) (opts : SwapOptions) :
    Except Error (Transaction D) := do
  let (mode, venueArgs) ← venueDispatch opts.venues
  if let some fee := opts.frontendFee then validateFee fee
  let selectors := swapSelectors mode
  write client router (if opts.frontendFee.isSome then selectors.withFee else selectors.plain)
    (venueArgs ++ swapValues params ++ (opts.frontendFee.map FrontendFee.toValue).toList)
    (if params.tokenIn = ethSentinel then some params.amountIn else none) opts.gasLimit

/-- The preview; `undefined` where the table has no entry. -/
def gasLimitFor (opts : SwapOptions) : Except Error (Option Nat) :=
  match opts.gasLimit with
  | some limit => .ok (some limit)
  | none => do
    let (mode, _) ← venueDispatch opts.venues
    let selectors := swapSelectors mode
    .ok (gasLimitByFunction.lookup (if opts.frontendFee.isSome then selectors.withFee
      else selectors.plain))

end PropAMM.TypeScript.Router

/-! ## What the options ask for -/

namespace PropAMM.Bindings

open PropAMM.Abi Txn

/-- Why options are refused. -/
inductive Refusal where
  | noVenues
  | badBps (bps : Int)
  | zeroRecipient

def FrontendFee.refusal? (fee : FrontendFee) : Option Refusal :=
  if fee.bps < 1 ∨ maxFeeBps < fee.bps then some (.badBps fee.bps)
  else if fee.recipient = 0 then some .zeroRecipient
  else none

def FrontendFee.onChain (fee : FrontendFee) : PropAMM.FrontendFee := ⟨fee.bps.toNat, fee.recipient⟩

namespace SwapOptions

/-- The first reason there is. -/
def refusal? (opts : SwapOptions) : Option Refusal :=
  if opts.venues = some [] then some .noVenues else opts.frontendFee.bind FrontendFee.refusal?

/-- The entrypoint the options describe. -/
def call (opts : SwapOptions) (params : SwapArgs) : SwapCall :=
  match opts.venues, opts.frontendFee.map FrontendFee.onChain with
  | none, none => .swapV1 params
  | none, some fee => .swapWithFeeV1 params fee
  | some [venue], none => .swapViaVenueV1 venue params
  | some [venue], some fee => .swapViaVenueWithFeeV1 venue params fee
  | some venues, none => .swapViaSelectedVenuesV1 venues params
  | some venues, some fee => .swapViaSelectedVenuesWithFeeV1 venues params fee

end SwapOptions

/-- How an SDK words a refusal; only the wording of the bounds differs. -/
def Refusal.error (wording : Int → String) : Refusal → Error
  | noVenues => .invalidInput "venues must not be empty — omit it to use every whitelisted venue"
  | badBps bps => .invalidInput (wording bps)
  | zeroRecipient => .invalidInput "fee recipient must not be the zero address"

def VenueMode.of : Option (List Address) → VenueMode
  | none => .all
  | some [_] => .single
  | some _ => .selected

/-- What comes before the six arguments. -/
def leading : Option (List Address) → List Value
  | none => []
  | some [venue] => [.address venue]
  | some venues => [addressArray venues]

def VenueMode.function : VenueMode → (withFee : Bool) → RouterFunction
  | all, false => .swapV1
  | all, true => .swapWithFeeV1
  | single, false => .swapViaVenueV1
  | single, true => .swapViaVenueWithFeeV1
  | selected, false => .swapViaSelectedVenuesV1
  | selected, true => .swapViaSelectedVenuesWithFeeV1

theorem venueDispatch_eq (noVenues : String) (venues : Option (List Address)) :
    venueDispatch noVenues venues = if venues = some [] then .error (.invalidInput noVenues)
      else .ok (VenueMode.of venues, leading venues) := by
  match venues with
  | none => rfl
  | some [] => rfl
  | some [_] => rfl
  | some (_ :: _ :: _) => rfl

section Options

variable {opts : SwapOptions}

theorem FrontendFee.refusal?_none {fee : FrontendFee} :
    fee.refusal? = none ↔ 1 ≤ fee.bps ∧ fee.bps ≤ maxFeeBps ∧ fee.recipient ≠ 0 := by
  unfold FrontendFee.refusal?
  constructor
  · intro accepted
    split at accepted
    · cases accepted
    · rename_i bounds
      split at accepted
      · cases accepted
      · rename_i nonzero
        exact ⟨by omega, by omega, nonzero⟩
  · rintro ⟨low, high, nonzero⟩
    rw [if_neg (by omega), if_neg nonzero]

theorem refusal?_eq_none : opts.refusal? = none ↔ opts.venues ≠ some [] ∧
    ∀ fee, opts.frontendFee = some fee → 1 ≤ fee.bps ∧ fee.bps ≤ maxFeeBps ∧ fee.recipient ≠ 0 := by
  unfold SwapOptions.refusal?
  by_cases empty : opts.venues = some []
  · rw [if_pos empty]
    constructor
    · intro accepted
      cases accepted
    · intro listed
      exact absurd empty listed.1
  · rw [if_neg empty]
    cases opts.frontendFee with
    | none => simpa using empty
    | some fee =>
        constructor
        · intro accepted
          refine ⟨empty, ?_⟩
          intro asked given
          cases given
          exact FrontendFee.refusal?_none.mp accepted
        · intro listed
          exact FrontendFee.refusal?_none.mpr (listed.2 fee rfl)

end Options

/-! ## Agreement -/

section Send

variable {D O : Type} {client : Client D O} {router : Address} {params : SwapArgs}
  {opts : SwapOptions}

section Accepted

variable {data : D} {signer : Address} (accepted : opts.refusal? = none)
  (encoded : client.codec.encodeCalldata (RouterCall.swap (opts.call params)).function.signature
    (RouterCall.swap (opts.call params)).values = .ok data) (signed : client.signer = some signer)

include accepted encoded signed

end Accepted

end Send

end PropAMM.Bindings
