import PropAMM.Lib.DecimalText
import PropAMM.Sdk.PythonOverrides
import PropAMM.Sdk.RouterBindings
import PropAMM.Sdk.RustOverrides

/-! # Naming a revert

A custom error of the router travels as its selector and its encoded arguments, inside a
node's reply, inside a library's error. The SDKs recover the payload and name it after
their tables of errors.
-/

namespace PropAMM.Abi

/-- A signature, of its name and its types. -/
def signatureOf (name : String) (types : List String) : String :=
  name ++ "(" ++ ",".intercalate types ++ ")"

/-- The types of a flat list, as the libraries split it. -/
def splitTypes (types : List Char) : List String := (types.splitOn ',').map String.ofList

/-- An error with its arguments. -/
structure Raised where
  name : String
  args : List (String × Value)

namespace Raised

def types (r : Raised) : List String := r.args.map Prod.fst

def values (r : Raised) : List Value := r.args.map Prod.snd

def signature (r : Raised) : String := signatureOf r.name r.types

/-- The arguments are in the range of their types. -/
def Typed (r : Raised) : Prop := ∀ arg ∈ r.args, HasType arg.1 arg.2

end Raised

/-- What reverting with an error returns. -/
def Codec.payload {D : Type} (codec : Codec D) (r : Raised) : Bytes :=
  codec.selector r.signature ++ codec.encodeReturned r.values

/-- The lower-case digits of bytes. -/
def hexText (bytes : Bytes) : List Char := bytes.flatMap fun b => Text.fixedHex 2 b.toNat

end PropAMM.Abi

namespace PropAMM.RouterError

open Abi

/-- As `Errors.sol` and the inherited contracts declare it; what a callee reverted with is
    none of the router's. -/
def raised? : RouterError → Option Raised
  | onlySelf => some ⟨"OnlySelf", []⟩
  | unknownVenue => some ⟨"UnknownVenue", []⟩
  | insufficientOutput expectedAmount receivedAmount =>
    some ⟨"InsufficientOutput",
      [("uint256", .uint expectedAmount), ("uint256", .uint receivedAmount)]⟩
  | expired => some ⟨"Expired", []⟩
  | noQuotesAvailable => some ⟨"NoQuotesAvailable", []⟩
  | invalidFallbackFee fee => some ⟨"InvalidFallbackFee", [("uint24", .uint fee)]⟩
  | zeroAddress => some ⟨"ZeroAddress", []⟩
  | arrayLengthMismatch => some ⟨"ArrayLengthMismatch", []⟩
  | venueAlreadyWhitelisted venue => some ⟨"VenueAlreadyWhitelisted", [("address", .address venue)]⟩
  | venueNotWhitelisted venue => some ⟨"VenueNotWhitelisted", [("address", .address venue)]⟩
  | invalidValue expected received =>
    some ⟨"InvalidValue", [("uint256", .uint expected), ("uint256", .uint received)]⟩
  | ethTransferFailed => some ⟨"ETHTransferFailed", []⟩
  | identicalTokens => some ⟨"IdenticalTokens", []⟩
  | zeroAmount => some ⟨"ZeroAmount", []⟩
  | amountTooLarge amount => some ⟨"AmountTooLarge", [("uint256", .uint amount)]⟩
  | tooManyVenues count => some ⟨"TooManyVenues", [("uint256", .uint count)]⟩
  | quoteBalanceInvariantViolated => some ⟨"QuoteBalanceInvariantViolated", []⟩
  | splitAllocationMismatch amountIn allocated =>
    some ⟨"SplitAllocationMismatch", [("uint256", .uint amountIn), ("uint256", .uint allocated)]⟩
  | feeBpsTooHigh requested max =>
      some ⟨"FeeBpsTooHigh", [("uint16", .uint requested), ("uint16", .uint max)]⟩
  | enforcedPause => some ⟨"EnforcedPause", []⟩
  | expectedPause => some ⟨"ExpectedPause", []⟩
  | reentrancyGuardReentrantCall => some ⟨"ReentrancyGuardReentrantCall", []⟩
  | accessManagedUnauthorized caller =>
      some ⟨"AccessManagedUnauthorized", [("address", .address caller)]⟩
  | panicked code => some ⟨"Panic", [("uint256", .uint code)]⟩
  | external => none

/-- The errors that Rust's table leaves out. -/
def Unlisted : RouterError → Prop
  | expectedPause | reentrancyGuardReentrantCall | accessManagedUnauthorized _ | panicked _ => True
  | _ => False

/-- The compiler's own error, which no ABI lists. -/
def Panics : RouterError → Prop
  | panicked _ => True
  | _ => False

end PropAMM.RouterError

/-! ## Rust -/

namespace PropAMM.Rust.Router

open PropAMM.Abi Bindings DecimalText

/-- `ERROR_SIGNATURES` -/
def errorSignatures : List String := [
  "OnlySelf()",
  "UnknownVenue()",
  "InsufficientOutput(uint256,uint256)",
  "Expired()",
  "NoQuotesAvailable()",
  "InvalidFallbackFee(uint24)",
  "ZeroAddress()",
  "ArrayLengthMismatch()",
  "VenueAlreadyWhitelisted(address)",
  "VenueNotWhitelisted(address)",
  "InvalidValue(uint256,uint256)",
  "ETHTransferFailed()",
  "UnexpectedETHSender()",
  "IdenticalTokens()",
  "FeeBpsTooHigh(uint16,uint16)",
  "EnforcedPause()",
  "ZeroAmount()",
  "AmountTooLarge(uint256)",
  "TooManyVenues(uint256)",
  "QuoteBalanceInvariantViolated()",
  "SplitAllocationMismatch(uint256,uint256)"]

/-- `OMITTED_ERRORS` -/
def omittedErrors : List String := [
  "AccessManagedInvalidAuthority(address)",
  "AccessManagedRequiredDelay(address,uint32)",
  "AccessManagedUnauthorized(address)",
  "AddressEmptyCode(address)",
  "ERC1967InvalidImplementation(address)",
  "ERC1967NonPayable()",
  "ExpectedPause()",
  "FailedCall()",
  "InvalidInitialization()",
  "NotInitializing()",
  "ReentrancyGuardReentrantCall()",
  "SafeERC20FailedOperation(address)",
  "UUPSUnauthorizedCallContext()",
  "UUPSUnsupportedProxiableUUID(bytes32)"]

/-- An error of the Ethereum client. -/
inductive EthClientError where
  | custom (text : String)
  | other (text : String)

section Decoding

variable {D : Type} (codec : Codec D) (debug : Value → String)

/-- `decode_values`, on the characters of the type list. -/
def decodeValues (types : List Char) (data : Bytes) : Except Bindings.Error (List Value) :=
  (codec.decodeReturned (splitTypes types) data).mapError fun e =>
    .abi s!"failed to decode ({String.ofList types}): {e}"

def formatValue : Value → String
  | .uint v => toString v
  | .address v => Text.addressText v
  | other => debug other

def decodeError (data : Bytes) : Option String :=
  if data.length < 4 then none
  else match errorSignatures.find? fun signature => codec.selector signature = data.take 4 with
    | none => none
    | some signature =>
      match splitOnce '(' signature.toList with
      | (_, none) => none
      | (name, some params) =>
        let types := params.rdropWhile (· = ')')
        if types = [] then some (String.ofList name ++ "()")
        else match decodeValues codec types (data.drop 4) with
          | .error _ => none
          | .ok values =>
            some (String.ofList name ++ "(" ++ ", ".intercalate (values.map (formatValue debug)) ++
              ")")

def decodeRevert : Bindings.Error → Bindings.Error
  | .revert message (some data) =>
    match decodeError codec debug data with
    | some decoded => .revert s!"{message} ({decoded})" (some data)
    | none => .revert message (some data)
  | error => error

/-- What the library puts around a node's message. -/
def callErrorPrefix : List Char := "eth_call rpc error: ".toList

/-- What it puts between the message and the payload. -/
def dataMark : List Char := " (data: 0x".toList

def parseCallError (crates : Crates) : EthClientError → Bindings.Error
  | .other text => .client text
  | .custom text =>
    if callErrorPrefix.isPrefixOf text.toList then
      let rest := text.toList.drop callErrorPrefix.length
      let data := (rsplitOnce dataMark rest).bind fun parts =>
        (if parts.2.getLast? = some ')' then some parts.2.dropLast else none).bind fun hex =>
          (crates.hexDecode (String.ofList hex)).toOption.map fun data => (parts.1, data)
      match data with
      | some (message, data) => .revert (String.ofList message) (some data)
      | none => .revert (String.ofList rest) none
    else .client text

end Decoding

end PropAMM.Rust.Router

/-! ## Python -/

namespace PropAMM.Python.Router

open PropAMM.Abi Bindings

/-- The errors of `propamm_router_abi.json`. -/
def abiErrors : List (String × List String) := [
  ("AccessManagedInvalidAuthority", ["address"]),
  ("AccessManagedRequiredDelay", ["address", "uint32"]),
  ("AccessManagedUnauthorized", ["address"]),
  ("AddressEmptyCode", ["address"]),
  ("AmountTooLarge", ["uint256"]),
  ("ArrayLengthMismatch", []),
  ("ERC1967InvalidImplementation", ["address"]),
  ("ERC1967NonPayable", []),
  ("ETHTransferFailed", []),
  ("EnforcedPause", []),
  ("ExpectedPause", []),
  ("Expired", []),
  ("FailedCall", []),
  ("FeeBpsTooHigh", ["uint16", "uint16"]),
  ("IdenticalTokens", []),
  ("InsufficientOutput", ["uint256", "uint256"]),
  ("InvalidFallbackFee", ["uint24"]),
  ("InvalidInitialization", []),
  ("InvalidValue", ["uint256", "uint256"]),
  ("NoQuotesAvailable", []),
  ("NotInitializing", []),
  ("OnlySelf", []),
  ("QuoteBalanceInvariantViolated", []),
  ("ReentrancyGuardReentrantCall", []),
  ("SafeERC20FailedOperation", ["address"]),
  ("SplitAllocationMismatch", ["uint256", "uint256"]),
  ("TooManyVenues", ["uint256"]),
  ("UUPSUnauthorizedCallContext", []),
  ("UUPSUnsupportedProxiableUUID", ["bytes32"]),
  ("UnexpectedETHSender", []),
  ("UnknownVenue", []),
  ("VenueAlreadyWhitelisted", ["address"]),
  ("VenueNotWhitelisted", ["address"]),
  ("ZeroAddress", []),
  ("ZeroAmount", [])]

section Decoding

variable {D : Type} (codec : Codec D) (debug : Value → String)

/-- `_error_table` -/
def errorTable : Dict Bytes (String × List String) :=
  Dict.empty.insertAll (abiErrors.map fun entry =>
    (codec.selector (signatureOf entry.1 entry.2), entry))

def str : Value → String
  | .uint v => toString v
  | .address v => Text.addressText v
  | other => debug other

/-- Arguments that do not decode raise, which ends the call. -/
def nameError (data : Bytes) : Except String (Option String) :=
  if data.length < 4 then .ok none
  else match (errorTable codec).get? (data.take 4) with
    | none => .ok none
    | some (name, types) =>
      if types = [] then .ok (some (name ++ "()"))
      else (codec.decodeReturned types (data.drop 4)).map fun values =>
        some (name ++ "(" ++ ", ".intercalate (values.map (str debug)) ++ ")")

/-- `_named_revert` -/
def namedRevert : Error → Except String Error
  | .revert message (some data) => do
    match ← nameError codec debug data with
    | some named => .ok (.revert named (some data))
    | none => .ok (.revert message (some data))
  | error => .ok error

/-- `bytes.fromhex`, which skips white space between bytes. -/
def fromhex : List Char → Option Bytes
  | [] => some []
  | c :: rest =>
    if c.toNat = 32 ∨ 9 ≤ c.toNat ∧ c.toNat ≤ 13 then fromhex rest
    else match rest with
      | [] => none
      | d :: rest => (Text.toDigit 16 c).bind fun high => (Text.toDigit 16 d).bind fun low =>
        (fromhex rest).map fun bytes => UInt8.ofNat (16 * high + low) :: bytes

/-- `_revert_from_rpc_error`, of a decoded error object. -/
def revertFromRpcError (error : Json) : Error :=
  let message := ((error.get? "message").bind Json.asStr?).getD "execution reverted"
  let raw := match error.get? "data" with
    | some (.obj fields) => Overrides.getOr (.obj fields) "data" "result"
    | raw => raw
  match raw with
  | some (.str text) =>
    match text.toList with
    | '0' :: 'x' :: hex => .revert message (if hex = [] then none else fromhex hex)
    | _ => .revert message none
  | _ => .revert message none

end Decoding

end PropAMM.Python.Router

/-! ## Tables -/

namespace PropAMM.Abi

/-- The errors of the router's ABI, and the compiler's. -/
def errorKinds : List (String × List String) := ("Panic", ["uint256"]) :: Python.Router.abiErrors

/-- Rust's table and what it leaves out are the ABI's errors. -/
theorem abi_matches_contract :
    (Python.Router.abiErrors.map fun kind => signatureOf kind.1 kind.2).Perm
      (Rust.Router.errorSignatures ++ Rust.Router.omittedErrors) := by
  decide +kernel

theorem signatures_known {signature : String} (listed : signature ∈ Rust.Router.errorSignatures) :
    ∃ kind ∈ errorKinds, signature = signatureOf kind.1 kind.2 := by
  obtain ⟨kind, declared, same⟩ :=
    List.mem_map.mp (abi_matches_contract.mem_iff.mpr
      (List.mem_append_left Rust.Router.omittedErrors listed))
  exact ⟨kind, List.mem_cons_of_mem _ declared, same.symm⟩

/-- A signature splits into what it was made of. -/
theorem signature_splits : ∀ kind ∈ errorKinds,
    (DecimalText.splitOnce '(' (signatureOf kind.1 kind.2).toList) =
        (kind.1.toList, some ((",".intercalate kind.2).toList ++ [')'])) ∧
      ((",".intercalate kind.2).toList ++ [')']).rdropWhile (· = ')') =
        (",".intercalate kind.2).toList ∧
      if kind.2 = [] then (",".intercalate kind.2).toList = []
        else (",".intercalate kind.2).toList ≠ [] ∧
        splitTypes (",".intercalate kind.2).toList = kind.2 := by
  decide +kernel

/-- Each error has a selector of its own, of four bytes. -/
structure Codec.TellsErrors {D : Type} (codec : Codec D) : Prop where
  width : ∀ kind ∈ errorKinds, (codec.selector (signatureOf kind.1 kind.2)).length = 4
  apart : ∀ kind ∈ errorKinds, ∀ other ∈ errorKinds,
    codec.selector (signatureOf kind.1 kind.2) = codec.selector (signatureOf other.1 other.2) →
    kind = other

/-- Numbers in decimal, addresses in lower case, and the rest as the language prints it. -/
def Value.text (other : Value → String) : Value → String
  | .uint n => toString n
  | .address a => Text.addressText a
  | value => other value

/-- An error as the SDKs print it. -/
def Raised.text (other : Value → String) (r : Raised) : String :=
  r.name ++ "(" ++ ", ".intercalate (r.values.map (Value.text other)) ++ ")"

theorem find?_apart {α β : Type} [DecidableEq α] [DecidableEq β] (key : α → β) {l : List α} (a : α)
    (apart : ∀ b ∈ l, key b = key a → b = a) :
    l.find? (fun b => key b = key a) = if a ∈ l then some a else none := by
  induction l with
  | nil => rfl
  | cons b l ih =>
      by_cases same : key b = key a
      · have found := apart b List.mem_cons_self same
        simp [List.find?_cons_of_pos, found]
      · have other : a ≠ b := fun h => same (h ▸ rfl)
        rw [List.find?_cons_of_neg (by simpa using same),
          ih fun b member => apart b (List.mem_cons_of_mem _ member)]
        simp only [List.mem_cons, other, false_or]

/-! ## Payloads -/

section Payload

variable {D : Type} {codec : Codec D} {r : Raised}

theorem Raised.forall₂ (typed : r.Typed) : r.types.Forall₂ HasType r.values := by
  unfold Raised.types Raised.values
  rw [List.forall₂_map_left_iff, List.forall₂_map_right_iff, List.forall₂_same]
  exact typed

theorem decodeReturned_payload (faithful : codec.Faithful) (typed : r.Typed) :
    codec.decodeReturned r.types (codec.encodeReturned r.values) = .ok r.values :=
  faithful.returned r.types r.values (r.forall₂ typed)

variable (tells : codec.TellsErrors) (known : (r.name, r.types) ∈ errorKinds)

include tells known

theorem selector_width : (codec.selector r.signature).length = 4 :=
  tells.width (r.name, r.types) known

theorem payload_take : (codec.payload r).take 4 = codec.selector r.signature :=
  List.take_left' (selector_width tells known)

theorem payload_drop : (codec.payload r).drop 4 = codec.encodeReturned r.values :=
  List.drop_left' (selector_width tells known)

theorem payload_length : ¬ (codec.payload r).length < 4 := by
  rw [Codec.payload, List.length_append, selector_width tells known]
  omega

end Payload

theorem formatValue_text (debug : Value → String) :
    Rust.Router.formatValue debug = Value.text debug := by
  funext value
  cases value <;> rfl

theorem str_text (debug : Value → String) : Python.Router.str debug = Value.text debug := by
  funext value
  cases value <;> rfl

theorem text_of_no_types {other : Value → String} {r : Raised} (none : r.types = []) :
    r.text other = r.name ++ "()" := by
  have empty : r.args = [] := List.map_eq_nil_iff.mp none
  rw [Raised.text, Raised.values, empty, String.append_assoc, String.append_assoc]
  rfl

section Names

variable {D : Type} {codec : Codec D} (faithful : codec.Faithful) (tells : codec.TellsErrors)
  (debug : Value → String) {r : Raised} (known : (r.name, r.types) ∈ errorKinds) (typed : r.Typed)

include faithful tells known typed

/-- Rust names the errors of its table. -/
theorem decodeError_payload : Rust.Router.decodeError codec debug (codec.payload r) =
    if r.signature ∈ Rust.Router.errorSignatures then some (r.text debug) else none := by
  have apart : ∀ s ∈ Rust.Router.errorSignatures, codec.selector s = codec.selector r.signature →
      s = r.signature := by
    intro s listed same
    obtain ⟨kind, member, rfl⟩ := signatures_known listed
    rw [tells.apart kind member (r.name, r.types) known same]
    rfl
  obtain ⟨split, trimmed, read⟩ := signature_splits _ known
  unfold Rust.Router.decodeError
  rw [if_neg (payload_length tells known), payload_take tells known, payload_drop tells known,
    find?_apart codec.selector r.signature apart]
  by_cases listed : r.signature ∈ Rust.Router.errorSignatures
  · rw [if_pos listed, if_pos listed]
    simp only [Raised.signature, split, trimmed, String.ofList_toList]
    by_cases plain : r.types = []
    · rw [if_pos plain] at read
      rw [if_pos read, text_of_no_types plain]
    · rw [if_neg plain] at read
      rw [if_neg read.1]
      unfold Rust.Router.decodeValues
      rw [read.2, decodeReturned_payload faithful typed]
      simp only [Except.mapError, formatValue_text]
      rfl
  · rw [if_neg listed, if_neg listed]

/-- Python names the errors of the ABI. -/
theorem nameError_payload : Python.Router.nameError codec debug (codec.payload r) =
    .ok (if (r.name, r.types) ∈ Python.Router.abiErrors then some (r.text debug) else none) := by
  have apart : ∀ kind ∈ Python.Router.abiErrors.reverse, codec.selector
      (signatureOf kind.1 kind.2) = codec.selector (signatureOf r.name r.types) →
      kind = (r.name, r.types) := by
    intro kind member same
    exact tells.apart kind (List.mem_cons_of_mem _ (List.mem_reverse.mp member))
      (r.name, r.types) known same
  have table : (Python.Router.errorTable codec).get? (codec.selector r.signature) =
      if (r.name, r.types) ∈ Python.Router.abiErrors then some (r.name, r.types) else none := by
    have found :=
      find?_apart (fun kind : String × List String => codec.selector (signatureOf kind.1 kind.2))
        (r.name, r.types) apart
    rw [Python.Router.errorTable, Dict.get?_insertAll, Dict.get?_empty, Option.or_none,
      WriteLog.last, ← List.map_reverse, List.find?_map, Option.map_map]
    simp only [Function.comp_def, Option.map_id']
    rw [Raised.signature, found]
    simp only [List.mem_reverse]
  unfold Python.Router.nameError
  rw [if_neg (payload_length tells known), payload_take tells known, payload_drop tells known,
    table]
  by_cases listed : (r.name, r.types) ∈ Python.Router.abiErrors
  · rw [if_pos listed, if_pos listed]
    by_cases plain : r.types = []
    · simp only [if_pos plain, text_of_no_types plain]
    · simp only [if_neg plain, decodeReturned_payload faithful typed, Except.map, str_text]
      rfl
  · rw [if_neg listed, if_neg listed]

end Names

/-! ## Carried payloads -/

theorem fixedHex_byte (b : UInt8) : Text.fixedHex 2 b.toNat =
    [Nat.digitChar (b.toNat / 16), Nat.digitChar (b.toNat % 16)] := by
  have small : b.toNat / 16 < 16 := by
    have := b.toNat_lt
    omega
  simp only [Text.fixedHex, List.nil_append, List.singleton_append, Nat.mod_eq_of_lt small]

theorem hexText_cons (b : UInt8) (bytes : Bytes) : hexText (b :: bytes) =
    [Nat.digitChar (b.toNat / 16), Nat.digitChar (b.toNat % 16)] ++ hexText bytes := by
  rw [hexText, List.flatMap_cons, fixedHex_byte]
  rfl

theorem digit_of_mem_hexText {bytes : Bytes} {c : Char} (member : c ∈ hexText bytes) :
    ∃ d < 16, c = Nat.digitChar d := by
  obtain ⟨b, _, digit⟩ := List.mem_flatMap.mp member
  have byte := b.toNat_lt
  rw [fixedHex_byte] at digit
  rcases List.mem_cons.mp digit with high | low
  · exact ⟨_, by omega, high⟩
  · exact ⟨_, Nat.mod_lt _ (by decide), List.mem_singleton.mp low⟩

theorem paren_not_mem_hexText (bytes : Bytes) : '(' ∉ hexText bytes := by
  have all : ∀ d : Fin 16, '(' ≠ Nat.digitChar d := by decide
  intro member
  obtain ⟨d, small, same⟩ := digit_of_mem_hexText member
  exact all ⟨d, small⟩ same

theorem fromhex_hexText (bytes : Bytes) : Python.Router.fromhex (hexText bytes) = some bytes := by
  have digits : ∀ d : Fin 16, ¬ ((Nat.digitChar d).toNat = 32 ∨
      9 ≤ (Nat.digitChar d).toNat ∧ (Nat.digitChar d).toNat ≤ 13) := by decide
  induction bytes with
  | nil => rfl
  | cons b bytes ih =>
      have byte := b.toNat_lt
      have high : b.toNat / 16 < 16 := by omega
      have low : b.toNat % 16 < 16 := by omega
      have whole : 16 * (b.toNat / 16) + b.toNat % 16 = b.toNat := by omega
      rw [hexText_cons, List.cons_append, List.singleton_append]
      unfold Python.Router.fromhex
      rw [if_neg (digits ⟨_, high⟩)]
      simp only [Text.toDigit_digitChar high, Text.toDigit_digitChar low, ih, Option.bind_some,
        Option.map_some, whole, UInt8.ofNat_toNat]

theorem bytesOfHex_hexText (bytes : Bytes) :
    Rust.Crates.bytesOfHex (hexText bytes) = some bytes := by
  induction bytes with
  | nil => rfl
  | cons b bytes ih =>
      have byte := b.toNat_lt
      have high : b.toNat / 16 < 16 := by omega
      have low : b.toNat % 16 < 16 := by omega
      have whole : 16 * (b.toNat / 16) + b.toNat % 16 = b.toNat := by omega
      simp only [hexText_cons, List.cons_append, List.nil_append, Rust.Crates.bytesOfHex,
        Text.toDigit_digitChar high, Text.toDigit_digitChar low, ih, Option.bind_some,
        Option.map_some, whole, UInt8.ofNat_toNat]

/-- How Rust's node client words a revert. -/
def wrapped (message : String) (data : Bytes) : String :=
  String.ofList (Rust.Router.callErrorPrefix ++
    (message.toList ++ (Rust.Router.dataMark ++ (hexText data ++ [')']))))

/-- Whatever the message, the payload is what follows the last mark. -/
theorem parseCallError_wrapped {crates : Rust.Crates}
    (reads : ∀ data, crates.hexDecode (String.ofList (hexText data)) = .ok data) (message : String)
    (data : Bytes) :
    Rust.Router.parseCallError crates (.custom (wrapped message data)) = .revert message
      (some data) := by
  have last :
      DecimalText.rsplitOnce Rust.Router.dataMark (Rust.Router.dataMark ++
        (hexText data ++ [')'])) =
      some ([], hexText data ++ [')']) := by
    have behind : '(' ∉ "data: 0x".toList ++ (hexText data ++ [')']) := by
      simp [paren_not_mem_hexText]
    have blank : '(' ∉ [' '] := by decide
    exact DecimalText.rsplitOnce_mark blank behind (List.cons_ne_nil _ _)
  have starts : Rust.Router.callErrorPrefix.isPrefixOf (wrapped message data).toList := by
    rw [wrapped, String.toList_ofList]
    exact List.isPrefixOf_iff_prefix.mpr (List.prefix_append _ _)
  have rest : (wrapped message data).toList.drop Rust.Router.callErrorPrefix.length =
      message.toList ++ (Rust.Router.dataMark ++ (hexText data ++ [')'])) := by
    rw [wrapped, String.toList_ofList, List.drop_left]
  unfold Rust.Router.parseCallError
  simp only [if_pos starts, rest, DecimalText.rsplitOnce_append last message.toList,
    List.append_nil, Option.bind_some, List.getLast?_append, List.getLast?_singleton,
    Option.some_or, List.dropLast_concat, reads, Except.toOption,
    Option.map_some, String.ofList_toList, ↓reduceIte]

/-- The error object of a node's reply carries the payload, itself or one level down. -/
def Carries (error : Json) (data : Bytes) : Prop :=
  let text := Json.str (String.ofList ('0' :: 'x' :: hexText data))
  error.get? "data" = some text ∨
    ∃ fields, error.get? "data" = some (.obj fields) ∧
    Python.Overrides.getOr (.obj fields) "data" "result" = some text

theorem revertFromRpcError_carries {error : Json} {message : String} {data : Bytes}
    (worded : error.get? "message" = some (.str message)) (carried : Carries error data)
    (nonempty : data ≠ []) :
    Python.Router.revertFromRpcError error = .revert message (some data) := by
  have some_hex : hexText data ≠ [] := by
    obtain ⟨b, rest, rfl⟩ := List.exists_cons_of_ne_nil nonempty
    rw [hexText_cons]
    exact List.cons_ne_nil _ _
  unfold Python.Router.revertFromRpcError
  simp only [worded]
  rcases carried with direct | ⟨fields, nested, inner⟩
  · simp only [direct, String.toList_ofList, if_neg some_hex, fromhex_hexText]
    rfl
  · simp only [nested, inner, String.toList_ofList, if_neg some_hex, fromhex_hexText]
    rfl

/-! ## Agreement -/

/-- The router's own errors are among the kinds. -/
theorem raised_known {e : RouterError} {r : Raised} (raised : e.raised? = some r) :
    (r.name, r.types) ∈ errorKinds := by
  cases e <;> cases raised <;> simp [errorKinds, Python.Router.abiErrors, Raised.types]

theorem raised_listed {e : RouterError} {r : Raised} (raised : e.raised? = some r) :
    r.signature ∈ Rust.Router.errorSignatures ↔ ¬ e.Unlisted := by
  cases e <;> cases raised <;>
    simp only [Raised.signature, Raised.types, List.map_cons, List.map_nil, RouterError.Unlisted,
      not_true_eq_false, not_false_eq_true, iff_true, iff_false] <;>
    decide +kernel

theorem raised_declared {e : RouterError} {r : Raised} (raised : e.raised? = some r) :
    (r.name, r.types) ∈ Python.Router.abiErrors ↔ ¬ e.Panics := by
  cases e <;> cases raised <;> simp [Python.Router.abiErrors, Raised.types, RouterError.Panics]

/-- Whatever the node's message, both SDKs recover what the router reverted with, and name
    it with its arguments if it is of a kind their table has: Rust behind the message, Python in
    the message's place. The kinds are those of the ABI and the panic; the router's own errors
    are among them, Rust's table leaves out four of these and Python's the panic. -/
theorem reverts_named {D : Type} {codec : Codec D} (faithful : codec.Faithful)
    (tells : codec.TellsErrors) {crates : Rust.Crates}
    (reads : ∀ data, crates.hexDecode (String.ofList (hexText data)) = .ok data)
    (debug repr : Value → String) (message : String) :
    (∀ r : Raised, (r.name, r.types) ∈ errorKinds → r.Typed →
      Rust.Router.decodeRevert codec debug
          (Rust.Router.parseCallError crates (.custom (wrapped message (codec.payload r)))) =
        .revert (if r.signature ∈ Rust.Router.errorSignatures then s!"{message} ({r.text debug})"
          else message) (some (codec.payload r)) ∧
      ∀ error : Json, error.get? "message" = some (.str message) → Carries error (codec.payload r) →
        Python.Router.namedRevert codec repr (Python.Router.revertFromRpcError error) =
          .ok (.revert (if (r.name, r.types) ∈ Python.Router.abiErrors then r.text repr
            else message) (some (codec.payload r)))) ∧
    ∀ (e : RouterError) (r : Raised), e.raised? = some r → (r.name, r.types) ∈ errorKinds ∧
      (r.signature ∈ Rust.Router.errorSignatures ↔ ¬ e.Unlisted) ∧
      ((r.name, r.types) ∈ Python.Router.abiErrors ↔ ¬ e.Panics) := by
  refine ⟨?_, fun e r raised => ⟨raised_known raised, raised_listed raised, raised_declared raised⟩⟩
  intro r known typed
  constructor
  · rw [parseCallError_wrapped reads]
    unfold Rust.Router.decodeRevert
    simp only [decodeError_payload faithful tells debug known typed]
    by_cases listed : r.signature ∈ Rust.Router.errorSignatures
    · rw [if_pos listed, if_pos listed]
    · rw [if_neg listed, if_neg listed]
  · intro error worded carried
    have nonempty : codec.payload r ≠ [] := by
      intro empty
      have long := payload_length tells known
      rw [empty] at long
      exact long (by decide)
    rw [revertFromRpcError_carries worded carried nonempty]
    unfold Python.Router.namedRevert
    simp only [nameError_payload faithful tells repr known typed, bind, Except.bind]
    by_cases declared : (r.name, r.types) ∈ Python.Router.abiErrors
    · rw [if_pos declared, if_pos declared]
    · rw [if_neg declared, if_neg declared]

theorem keccakCodec_tells : keccakCodec.TellsErrors where
  width := by decide +kernel
  apart := by decide +kernel

theorem documented_reads (data : Bytes) :
    Rust.Crates.documented.hexDecode (String.ofList (hexText data)) = .ok data := by
  have width : (String.ofList (hexText data)).utf8ByteSize % 2 ≠ 1 := by
    have pair : ∀ d e : Fin 16, (String.ofList [Nat.digitChar d, Nat.digitChar e]).utf8ByteSize =
        2 := by
      decide +kernel
    induction data with
    | nil => decide
    | cons b data ih =>
        have byte := b.toNat_lt
        have two := pair ⟨b.toNat / 16, by omega⟩ ⟨b.toNat % 16, by omega⟩
        rw [hexText_cons, String.ofList_append, String.utf8ByteSize_append, two]
        omega
  unfold Rust.Crates.documented
  simp only [if_neg width, String.toList_ofList, bytesOfHex_hexText]

def missedMinimum : Raised :=
  ⟨"InsufficientOutput", [("uint256", .uint 1000), ("uint256", .uint 900)]⟩

def sampleReply : Json := .obj [("code", .int 3), ("message", .str "execution reverted"),
  ("data", .str (String.ofList ('0' :: 'x' :: hexText (keccakCodec.payload missedMinimum))))]

/-- A missed minimum, named behind the node's message and in its place. -/
theorem reverts_named_sample :
    Rust.Router.decodeRevert keccakCodec (fun _ => "")
      (Rust.Router.parseCallError Rust.Crates.documented
        (.custom (wrapped "execution reverted" (keccakCodec.payload missedMinimum)))) =
      .revert "execution reverted (InsufficientOutput(1000, 900))"
        (some (keccakCodec.payload missedMinimum)) ∧
    Python.Router.namedRevert keccakCodec (fun _ => "")
      (Python.Router.revertFromRpcError sampleReply) =
      .ok (.revert "InsufficientOutput(1000, 900)" (some (keccakCodec.payload missedMinimum))) := by
  have typed : missedMinimum.Typed := by
    intro arg member
    rcases List.mem_cons.mp member with rfl | member
    · exact .uint256 1000 (by decide)
    · rw [List.mem_singleton.mp member]
      exact .uint256 900 (by decide)
  have text : missedMinimum.text (fun _ => "") = "InsufficientOutput(1000, 900)" := by
    decide +kernel
  have known : (missedMinimum.name, missedMinimum.types) ∈ errorKinds := by decide +kernel
  have listed : missedMinimum.signature ∈ Rust.Router.errorSignatures := by decide +kernel
  have declared : (missedMinimum.name, missedMinimum.types) ∈ Python.Router.abiErrors := by
    decide +kernel
  obtain ⟨rust, python⟩ :=
    (reverts_named keccakCodec_faithful keccakCodec_tells documented_reads (fun _ => "")
      (fun _ => "") "execution reverted").1 missedMinimum known typed
  have nodeSays := python sampleReply rfl (.inl rfl)
  rw [if_pos listed, text] at rust
  rw [if_pos declared, text] at nodeSays
  exact ⟨rust, nodeSays⟩

end PropAMM.Abi
