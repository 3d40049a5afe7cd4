import PropAMM.Router.Delisting

/-! # The router's ABI

The quotes and swaps of the router as its ABI declares them: what a caller encodes and
what the router reads of it. The encoder itself, and the router's decoding of
calldata, are those of the toolchain.
-/

namespace PropAMM.Abi

abbrev Bytes := List UInt8

inductive Value where
  | uint (n : Nat)
  | address (a : Address)
  | fixedBytes (bytes : Bytes)
  | array (items : List Value)
  | tuple (items : List Value)

inductive RouterFunction where
  | swapV1
  | swapWithFeeV1
  | swapViaVenueV1
  | swapViaVenueWithFeeV1
  | swapViaSelectedVenuesV1
  | swapViaSelectedVenuesWithFeeV1
  | swapSplitV1
  | swapSplitWithFeeV1
  | quoteV1
  | quoteVenueV1
  | quoteSelectedVenuesV1
  | getWhitelistedVenues
  deriving DecidableEq, Repr

namespace RouterFunction

def all : List RouterFunction :=
  [swapV1, swapWithFeeV1, swapViaVenueV1, swapViaVenueWithFeeV1, swapViaSelectedVenuesV1,
    swapViaSelectedVenuesWithFeeV1, swapSplitV1, swapSplitWithFeeV1, quoteV1, quoteVenueV1,
    quoteSelectedVenuesV1, getWhitelistedVenues]

def name : RouterFunction → String
  | swapV1 => "swapV1"
  | swapWithFeeV1 => "swapWithFeeV1"
  | swapViaVenueV1 => "swapViaVenueV1"
  | swapViaVenueWithFeeV1 => "swapViaVenueWithFeeV1"
  | swapViaSelectedVenuesV1 => "swapViaSelectedVenuesV1"
  | swapViaSelectedVenuesWithFeeV1 => "swapViaSelectedVenuesWithFeeV1"
  | swapSplitV1 => "swapSplitV1"
  | swapSplitWithFeeV1 => "swapSplitWithFeeV1"
  | quoteV1 => "quoteV1"
  | quoteVenueV1 => "quoteVenueV1"
  | quoteSelectedVenuesV1 => "quoteSelectedVenuesV1"
  | getWhitelistedVenues => "getWhitelistedVenues"

/-- The six arguments of every swap. -/
def swapTypes : List String := ["address", "address", "uint256", "uint256", "address", "uint256"]

/-- `FrontendFee` -/
def feeType : String := "(uint16,address)"

def types : RouterFunction → List String
  | swapV1 | swapSplitV1 => swapTypes
  | swapWithFeeV1 | swapSplitWithFeeV1 => swapTypes ++ [feeType]
  | swapViaVenueV1 => "address" :: swapTypes
  | swapViaVenueWithFeeV1 => "address" :: swapTypes ++ [feeType]
  | swapViaSelectedVenuesV1 => "address[]" :: swapTypes
  | swapViaSelectedVenuesWithFeeV1 => "address[]" :: swapTypes ++ [feeType]
  | quoteV1 => ["address", "address", "uint256"]
  | quoteVenueV1 => ["address", "address", "address", "uint256"]
  | quoteSelectedVenuesV1 => ["address[]", "address", "address", "uint256"]
  | getWhitelistedVenues => []

/-- The canonical signature, which the selector is the hash of. -/
def signature (f : RouterFunction) : String := f.name ++ "(" ++ ",".intercalate f.types ++ ")"

def ofSignature? (signature : String) : Option RouterFunction :=
  all.find? fun f => f.signature = signature

def ofName? (name : String) : Option RouterFunction := all.find? fun f => f.name = name

/-- No two functions share a signature, or a name. -/
theorem ofSignature?_signature (f : RouterFunction) : ofSignature? f.signature = some f := by
  cases f <;> decide +kernel

theorem ofName?_name (f : RouterFunction) : ofName? f.name = some f := by
  cases f <;> decide +kernel

end RouterFunction

/-! ## Calls -/

inductive QuoteCall where
  | quoteV1 (tokenIn tokenOut : Address) (amount : Nat)
  | quoteVenueV1 (venue tokenIn tokenOut : Address) (amount : Nat)
  | quoteSelectedVenuesV1 (venues : List Address) (tokenIn tokenOut : Address) (amountIn : Nat)

/-- The amount and the venue a quote returns. -/
def QuoteCall.run (x : Ctx) : QuoteCall → RouterM (Nat × Address)
  | quoteV1 tokenIn tokenOut amount => PropAMM.quoteV1 x tokenIn tokenOut amount
  | quoteVenueV1 venue tokenIn tokenOut amount =>
      PropAMM.quoteVenueV1 x venue tokenIn tokenOut amount
  | quoteSelectedVenuesV1 venues tokenIn tokenOut amountIn =>
    PropAMM.quoteSelectedVenuesV1 x venues tokenIn tokenOut amountIn

inductive RouterCall where
  | quote (call : QuoteCall)
  | swap (call : SwapCall)
  | getWhitelistedVenues

def addressArray (addresses : List Address) : Value := .array (addresses.map .address)

/-- The six arguments of every swap, in order. -/
def swapValues (a : SwapArgs) : List Value :=
  [.address a.tokenIn, .address a.tokenOut, .uint a.amountIn, .uint a.amountOutMin,
    .address a.recipient, .uint a.deadline]

def feeValue (fee : FrontendFee) : Value := .tuple [.uint fee.bps, .address fee.recipient]

namespace RouterCall

def function : RouterCall → RouterFunction
  | quote (.quoteV1 ..) => .quoteV1
  | quote (.quoteVenueV1 ..) => .quoteVenueV1
  | quote (.quoteSelectedVenuesV1 ..) => .quoteSelectedVenuesV1
  | swap (.swapV1 _) => .swapV1
  | swap (.swapWithFeeV1 ..) => .swapWithFeeV1
  | swap (.swapViaVenueV1 ..) => .swapViaVenueV1
  | swap (.swapViaVenueWithFeeV1 ..) => .swapViaVenueWithFeeV1
  | swap (.swapViaSelectedVenuesV1 ..) => .swapViaSelectedVenuesV1
  | swap (.swapViaSelectedVenuesWithFeeV1 ..) => .swapViaSelectedVenuesWithFeeV1
  | swap (.swapSplitV1 _) => .swapSplitV1
  | swap (.swapSplitWithFeeV1 ..) => .swapSplitWithFeeV1
  | getWhitelistedVenues => .getWhitelistedVenues

/-- The arguments, as the function declares them. -/
def values : RouterCall → List Value
  | quote (.quoteV1 tokenIn tokenOut amount) => [.address tokenIn, .address tokenOut, .uint amount]
  | quote (.quoteVenueV1 venue tokenIn tokenOut amount) =>
    [.address venue, .address tokenIn, .address tokenOut, .uint amount]
  | quote (.quoteSelectedVenuesV1 venues tokenIn tokenOut amountIn) =>
    [addressArray venues, .address tokenIn, .address tokenOut, .uint amountIn]
  | swap (.swapV1 a) | swap (.swapSplitV1 a) => swapValues a
  | swap (.swapWithFeeV1 a fee) | swap (.swapSplitWithFeeV1 a fee) => swapValues a ++ [feeValue fee]
  | swap (.swapViaVenueV1 venue a) => .address venue :: swapValues a
  | swap (.swapViaVenueWithFeeV1 venue a fee) => .address venue :: swapValues a ++ [feeValue fee]
  | swap (.swapViaSelectedVenuesV1 venues a) => addressArray venues :: swapValues a
  | swap (.swapViaSelectedVenuesWithFeeV1 venues a fee) =>
      addressArray venues :: swapValues a ++ [feeValue fee]
  | getWhitelistedVenues => []

end RouterCall

/-! ## What the router reads -/

def Value.address? : Value → Option Address
  | address a => some a
  | _ => none

def Value.addresses? : Value → Option (List Address)
  | array items => items.mapM Value.address?
  | _ => none

def Value.fee? : Value → Option FrontendFee
  | tuple [.uint bps, .address recipient] => some ⟨bps, recipient⟩
  | _ => none

/-- The six arguments of a swap, and what follows them. -/
def swapArgs? : List Value → Option (SwapArgs × List Value)
  | .address tokenIn :: .address tokenOut :: .uint amountIn :: .uint amountOutMin ::
      .address recipient :: .uint deadline :: rest =>
    some (⟨tokenIn, tokenOut, amountIn, amountOutMin, recipient, deadline⟩, rest)
  | _ => none

/-- A swap without a fee: nothing follows. -/
def plain? (call : SwapArgs → SwapCall) (values : List Value) : Option RouterCall :=
  match swapArgs? values with
  | some (a, []) => some (.swap (call a))
  | _ => none

/-- A swap with a fee: the fee follows. -/
def withFee? (call : SwapArgs → FrontendFee → SwapCall) (values : List Value) : Option RouterCall :=
  match swapArgs? values with
  | some (a, [fee]) => fee.fee?.map fun fee => .swap (call a fee)
  | _ => none

/-- The call a function makes of its decoded arguments. -/
def RouterFunction.call? : RouterFunction → List Value → Option RouterCall
  | swapV1, values => plain? .swapV1 values
  | swapSplitV1, values => plain? .swapSplitV1 values
  | swapWithFeeV1, values => withFee? .swapWithFeeV1 values
  | swapSplitWithFeeV1, values => withFee? .swapSplitWithFeeV1 values
  | swapViaVenueV1, .address venue :: values => plain? (.swapViaVenueV1 venue) values
  | swapViaVenueWithFeeV1, .address venue :: values =>
      withFee? (.swapViaVenueWithFeeV1 venue) values
  | swapViaSelectedVenuesV1, list :: values => do
    let venues ← list.addresses?
    plain? (.swapViaSelectedVenuesV1 venues) values
  | swapViaSelectedVenuesWithFeeV1, list :: values => do
    let venues ← list.addresses?
    withFee? (.swapViaSelectedVenuesWithFeeV1 venues) values
  | quoteV1, [.address tokenIn, .address tokenOut, .uint amount] =>
      some (.quote (.quoteV1 tokenIn tokenOut amount))
  | quoteVenueV1, [.address venue, .address tokenIn, .address tokenOut, .uint amount] =>
    some (.quote (.quoteVenueV1 venue tokenIn tokenOut amount))
  | quoteSelectedVenuesV1, [list, .address tokenIn, .address tokenOut, .uint amountIn] =>
    list.addresses?.map fun venues =>
      .quote (.quoteSelectedVenuesV1 venues tokenIn tokenOut amountIn)
  | getWhitelistedVenues, [] => some .getWhitelistedVenues
  | _, _ => none

theorem addresses?_addressArray (venues : List Address) :
    (addressArray venues).addresses? = some venues := by
  show (venues.map Value.address).mapM Value.address? = some venues
  induction venues with
  | nil => rfl
  | cons venue venues ih => simp [Value.address?, ih]

/-- A function reads its own arguments back. -/
theorem call?_values (call : RouterCall) : call.function.call? call.values = some call := by
  cases call with
  | quote call =>
      cases call with
      | quoteV1 | quoteVenueV1 => rfl
      | quoteSelectedVenuesV1 venues tokenIn tokenOut amountIn =>
          simp only [RouterCall.function, RouterCall.values, RouterFunction.call?,
            addresses?_addressArray, Option.map_some]
  | swap call =>
      cases call with
      | swapViaSelectedVenuesV1 venues a =>
          simp only [RouterCall.function, RouterCall.values, RouterFunction.call?,
            addresses?_addressArray]
          rfl
      | swapViaSelectedVenuesWithFeeV1 venues a fee =>
          simp only [RouterCall.function, RouterCall.values, List.cons_append, RouterFunction.call?,
            addresses?_addressArray]
          rfl
      | _ => rfl
  | getWhitelistedVenues => rfl

/-! ## The codec -/

/-- Calldata and returned data, and the two ends that agree on them. -/
structure Codec (D : Type) where
  encodeCalldata : (signature : String) → List Value → Except String D
  /-- The function whose selector the calldata starts with, and its arguments, as the
      router's own decoder reads them. -/
  decodeCalldata : D → Option (String × List Value)
  /-- What the contract returns, or puts behind the selector of an error. -/
  encodeReturned : List Value → Bytes
  decodeReturned : (types : List String) → Bytes → Except String (List Value)
  /-- The first four bytes of the hash. -/
  selector : (signature : String) → Bytes

abbrev UintFits (n : Nat) : Prop := n < 2 ^ 256

def SwapArgs.Fits (a : SwapArgs) : Prop :=
  UintFits a.amountIn ∧ UintFits a.amountOutMin ∧ UintFits a.deadline

/-- The integers are in the range of their types. -/
def RouterCall.Fits : RouterCall → Prop
  | quote (.quoteV1 _ _ amount) | quote (.quoteVenueV1 _ _ _ amount) => UintFits amount
  | quote (.quoteSelectedVenuesV1 _ _ _ amountIn) => UintFits amountIn
  | swap call => SwapArgs.Fits call.args ∧ ∀ fee, call.fee? = some fee → fee.bps < 2 ^ 16
  | getWhitelistedVenues => True

/-- A value of one of the types that quotes return and errors carry. -/
inductive HasType : String → Value → Prop where
  | uint256 (n : Nat) : n < 2 ^ 256 → HasType "uint256" (.uint n)
  | uint32 (n : Nat) : n < 2 ^ 32 → HasType "uint32" (.uint n)
  | uint24 (n : Nat) : n < 2 ^ 24 → HasType "uint24" (.uint n)
  | uint16 (n : Nat) : n < 2 ^ 16 → HasType "uint16" (.uint n)
  | address (a : Address) : HasType "address" (.address a)
  | bytes32 (bytes : Bytes) : bytes.length = 32 → HasType "bytes32" (.fixedBytes bytes)

section Faithful

variable {D : Type}

/-- What one end encodes the other decodes. -/
structure Codec.Faithful (codec : Codec D) : Prop where
  calldata : ∀ call : RouterCall, call.Fits → ∃ data,
    codec.encodeCalldata call.function.signature call.values = .ok data ∧
      codec.decodeCalldata data = some (call.function.signature, call.values)
  returned : ∀ types values, types.Forall₂ HasType values →
    codec.decodeReturned types (codec.encodeReturned values) = .ok values
  listed : ∀ addresses : List Address, UintFits addresses.length →
    codec.decodeReturned ["address[]"] (codec.encodeReturned [addressArray addresses]) =
      .ok [addressArray addresses]

/-- The call the router makes of calldata; without one it reverts. -/
def Codec.called (codec : Codec D) (data : D) : Option RouterCall := do
  let (signature, values) ← codec.decodeCalldata data
  let f ← RouterFunction.ofSignature? signature
  f.call? values

theorem Codec.Faithful.encoded {codec : Codec D} (faithful : codec.Faithful) {call : RouterCall}
    (fits : call.Fits) :
    ∃ data, codec.encodeCalldata call.function.signature call.values = .ok data ∧
      codec.called data = some call := by
  obtain ⟨data, encoded, decoded⟩ := faithful.calldata call fits
  refine ⟨data, encoded, ?_⟩
  simp only [Codec.called, decoded, Option.bind_eq_bind, Option.bind_some,
    RouterFunction.ofSignature?_signature]
  exact call?_values call

end Faithful

/-! ## Words -/

/-- The last `width` bytes of `n`, most significant first. -/
def bytesOf : (width : Nat) → Nat → Bytes
  | 0, _ => []
  | width + 1, n => bytesOf width (n / 256) ++ [UInt8.ofNat (n % 256)]

def valueOf (bytes : Bytes) : Nat := bytes.foldl (fun n b => n * 256 + b.toNat) 0

def wordOf : Value → Bytes
  | .uint n => bytesOf 32 n
  | .address a => bytesOf 32 a.toNat
  | .fixedBytes bytes => bytes
  | _ => []

/-- Words; a list on its own stands behind its offset and its length. -/
def writeReturned : List Value → Bytes
  | [.array items] => bytesOf 32 32 ++ (bytesOf 32 items.length ++ items.flatMap wordOf)
  | values => values.flatMap wordOf

/-- A word as a value of a type. -/
def readWord (type : String) (word : Bytes) : Value :=
  if type = "address" then .address (BitVec.ofNat 160 (valueOf word))
  else if type = "bytes32" then .fixedBytes word
  else .uint (valueOf word)

/-- One word for each type. -/
def readWords : (types : List String) → Bytes → Except String (List Value)
  | [], _ => .ok []
  | type :: types, bytes =>
    if bytes.length < 32 then .error "out of bounds"
    else do
      let rest ← readWords types (bytes.drop 32)
      .ok (readWord type (bytes.take 32) :: rest)

/-- A list of addresses on its own, or words. -/
def readReturned (types : List String) (bytes : Bytes) : Except String (List Value) :=
  if types = ["address[]"] then do
    let items ← readWords (List.replicate (valueOf ((bytes.drop 32).take 32)) "address")
      (bytes.drop 64)
    .ok [.array items]
  else readWords types bytes

theorem length_bytesOf (width n : Nat) : (bytesOf width n).length = width := by
  induction width generalizing n with
  | zero => rfl
  | succ width ih => rw [bytesOf, List.length_append, ih, List.length_singleton]

theorem valueOf_bytesOf {width n : Nat} (small : n < 256 ^ width) :
    valueOf (bytesOf width n) = n := by
  induction width generalizing n with
  | zero =>
      have zero : n = 0 := Nat.lt_one_iff.mp small
      rw [zero]
      rfl
  | succ width ih =>
      have head : n / 256 < 256 ^ width := Nat.div_lt_of_lt_mul (Nat.pow_succ' ▸ small)
      have last : (UInt8.ofNat (n % 256)).toNat = n % 256 := by
        rw [UInt8.toNat_ofNat']
        exact Nat.mod_eq_of_lt (Nat.mod_lt n (by decide))
      unfold valueOf at ih ⊢
      rw [bytesOf, List.foldl_append, ih head, List.foldl_cons, List.foldl_nil, last,
        Nat.div_add_mod']

/-- A value is written in one word and read from it. -/
theorem HasType.word {type : String} {value : Value} (typed : HasType type value) :
    (wordOf value).length = 32 ∧ readWord type (wordOf value) = value := by
  have number : ∀ {type : String} {n : Nat}, type ≠ "address" → type ≠ "bytes32" → n < 256 ^ 32 →
      (wordOf (.uint n)).length = 32 ∧ readWord type (wordOf (.uint n)) = .uint n := by
    intro type n plain whole small
    refine ⟨length_bytesOf 32 n, ?_⟩
    rw [readWord, if_neg plain, if_neg whole, wordOf, valueOf_bytesOf small]
  cases typed with
  | uint256 n small => exact number (by decide) (by decide) small
  | uint32 n small => exact number (by decide) (by decide) (Nat.lt_trans small (by decide))
  | uint24 n small => exact number (by decide) (by decide) (Nat.lt_trans small (by decide))
  | uint16 n small => exact number (by decide) (by decide) (Nat.lt_trans small (by decide))
  | address a =>
      have small : a.toNat < 256 ^ 32 := Nat.lt_trans a.isLt (by decide)
      refine ⟨length_bytesOf 32 a.toNat, ?_⟩
      rw [readWord, if_pos rfl, wordOf, valueOf_bytesOf small, BitVec.ofNat_toNat,
        BitVec.setWidth_eq]
  | bytes32 bytes width =>
      refine ⟨width, ?_⟩
      rw [readWord, if_neg (by decide), if_pos rfl, wordOf]

theorem readWords_wordOf {types : List String} {values : List Value}
    (typed : types.Forall₂ HasType values) :
    readWords types (values.flatMap wordOf) = .ok values := by
  induction typed with
  | nil => rfl
  | @cons type value types values one rest ih =>
      obtain ⟨width, read⟩ := one.word
      have room : ¬ (wordOf value ++ values.flatMap wordOf).length < 32 := by
        rw [List.length_append, width]
        omega
      rw [List.flatMap_cons, readWords, if_neg room, List.take_left' width, List.drop_left' width,
        ih, read]
      rfl

theorem HasType.not_list {type : String} {value : Value} (typed : HasType type value) :
    type ≠ "address[]" ∧ ∀ items, value ≠ .array items := by
  cases typed <;> exact ⟨by decide, fun _ => Value.noConfusion⟩

theorem readReturned_words {types : List String} {values : List Value}
    (typed : types.Forall₂ HasType values) :
    readReturned types (writeReturned values) = .ok values := by
  have plain : writeReturned values = values.flatMap wordOf := by
    unfold writeReturned
    split
    · rename_i items
      cases typed with
      | cons one _ => exact absurd rfl (one.not_list.2 items)
    · rfl
  have words : types ≠ ["address[]"] := by
    rintro rfl
    cases typed with
    | cons one _ => exact one.not_list.1 rfl
  rw [plain, readReturned, if_neg words, readWords_wordOf typed]

theorem readReturned_addresses {addresses : List Address} (short : UintFits addresses.length) :
    readReturned ["address[]"] (writeReturned [addressArray addresses]) =
      .ok [addressArray addresses] := by
  have offset := length_bytesOf 32 32
  have width := length_bytesOf 32 addresses.length
  have typed : ∀ addresses : List Address,
      (List.replicate addresses.length "address").Forall₂ HasType
        (addresses.map Value.address) := by
    intro addresses
    induction addresses with
    | nil => exact .nil
    | cons a rest ih => exact .cons (.address a) ih
  have items : (bytesOf 32 32 ++ (bytesOf 32 addresses.length ++
      (addresses.map Value.address).flatMap wordOf)).drop 64 =
        (addresses.map Value.address).flatMap wordOf := by
    rw [← List.append_assoc]
    exact List.drop_left' (by rw [List.length_append, offset, width])
  rw [addressArray, writeReturned, List.length_map, readReturned, if_pos rfl,
    List.drop_left' offset, List.take_left' width, valueOf_bytesOf short, items, readWords_wordOf
      (typed addresses)]
  rfl

/-- The codec that leaves calldata as it is and writes what is returned in words. -/
def Codec.words (selector : String → Bytes) : Codec (String × List Value) where
  encodeCalldata signature values := .ok (signature, values)
  decodeCalldata := some
  encodeReturned := writeReturned
  decodeReturned := readReturned
  selector := selector

theorem Codec.words_faithful (selector : String → Bytes) : (Codec.words selector).Faithful :=
  ⟨fun _ _ => ⟨_, rfl, rfl⟩, fun _ _ typed => readReturned_words typed,
    fun _ short => readReturned_addresses short⟩

/-- The first four bytes of the hashes of the functions' and the errors' signatures. -/
def keccakSelectors : List (String × Bytes) := [
  ("swapV1(address,address,uint256,uint256,address,uint256)", [0x10, 0x37, 0xac, 0xb3]),
  ("swapWithFeeV1(address,address,uint256,uint256,address,uint256,(uint16,address))",
    [0xd4, 0xa4, 0x1d, 0xda]),
  ("swapViaVenueV1(address,address,address,uint256,uint256,address,uint256)",
    [0x82, 0xfc, 0x54, 0x93]),
  ("swapViaVenueWithFeeV1(address,address,address,uint256,uint256,address,uint256,(uint16,address))",
    [0xca, 0x77, 0x56, 0x98]),
  ("swapViaSelectedVenuesV1(address[],address,address,uint256,uint256,address,uint256)",
    [0xf7, 0x89, 0x0e, 0x1d]),
  ("swapViaSelectedVenuesWithFeeV1(address[],address,address,uint256,uint256,address,uint256,(uint16,address))",
    [0xcc, 0x38, 0xd8, 0x22]),
  ("swapSplitV1(address,address,uint256,uint256,address,uint256)", [0x5f, 0x85, 0x64, 0x39]),
  ("swapSplitWithFeeV1(address,address,uint256,uint256,address,uint256,(uint16,address))",
    [0xe7, 0x97, 0x0b, 0x1b]),
  ("quoteV1(address,address,uint256)", [0x04, 0xf9, 0xca, 0xa2]),
  ("quoteVenueV1(address,address,address,uint256)", [0x22, 0x1e, 0xe8, 0x1f]),
  ("quoteSelectedVenuesV1(address[],address,address,uint256)", [0x82, 0x4b, 0xfc, 0xcd]),
  ("getWhitelistedVenues()", [0xd7, 0xd0, 0x08, 0xfc]),
  ("AccessManagedInvalidAuthority(address)", [0xc2, 0xf3, 0x1e, 0x5e]),
  ("AccessManagedRequiredDelay(address,uint32)", [0xaf, 0x77, 0x16, 0x9d]),
  ("AccessManagedUnauthorized(address)", [0x06, 0x8c, 0xa9, 0xd8]),
  ("AddressEmptyCode(address)", [0x99, 0x96, 0xb3, 0x15]),
  ("AmountTooLarge(uint256)", [0x08, 0x08, 0x3b, 0x2a]),
  ("ArrayLengthMismatch()", [0xa2, 0x4a, 0x13, 0xa6]),
  ("ERC1967InvalidImplementation(address)", [0x4c, 0x9c, 0x8c, 0xe3]),
  ("ERC1967NonPayable()", [0xb3, 0x98, 0x97, 0x9f]),
  ("ETHTransferFailed()", [0xb1, 0x2d, 0x13, 0xeb]),
  ("EnforcedPause()", [0xd9, 0x3c, 0x06, 0x65]),
  ("ExpectedPause()", [0x8d, 0xfc, 0x20, 0x2b]),
  ("Expired()", [0x20, 0x3d, 0x82, 0xd8]),
  ("FailedCall()", [0xd6, 0xbd, 0xa2, 0x75]),
  ("FeeBpsTooHigh(uint16,uint16)", [0x84, 0xc6, 0xb9, 0xb5]),
  ("IdenticalTokens()", [0x5c, 0x6d, 0x7b, 0x73]),
  ("InsufficientOutput(uint256,uint256)", [0x2c, 0x19, 0xb8, 0xb8]),
  ("InvalidFallbackFee(uint24)", [0xa7, 0x26, 0x35, 0x79]),
  ("InvalidInitialization()", [0xf9, 0x2e, 0xe8, 0xa9]),
  ("InvalidValue(uint256,uint256)", [0xde, 0x9b, 0x74, 0xa1]),
  ("NoQuotesAvailable()", [0xa9, 0x01, 0x74, 0x8d]),
  ("NotInitializing()", [0xd7, 0xe6, 0xbc, 0xf8]),
  ("OnlySelf()", [0x14, 0xd4, 0xa4, 0xe8]),
  ("QuoteBalanceInvariantViolated()", [0x3a, 0x3a, 0x5c, 0x58]),
  ("ReentrancyGuardReentrantCall()", [0x3e, 0xe5, 0xae, 0xb5]),
  ("SafeERC20FailedOperation(address)", [0x52, 0x74, 0xaf, 0xe7]),
  ("SplitAllocationMismatch(uint256,uint256)", [0x6d, 0xab, 0x54, 0x37]),
  ("TooManyVenues(uint256)", [0xcc, 0x07, 0x24, 0x6b]),
  ("UUPSUnauthorizedCallContext()", [0xe0, 0x7c, 0x8d, 0xba]),
  ("UUPSUnsupportedProxiableUUID(bytes32)", [0xaa, 0x1d, 0x49, 0xa4]),
  ("UnexpectedETHSender()", [0x3c, 0xba, 0xea, 0x16]),
  ("UnknownVenue()", [0x36, 0x0f, 0x0e, 0x2b]),
  ("VenueAlreadyWhitelisted(address)", [0x50, 0x7f, 0xa9, 0x1a]),
  ("VenueNotWhitelisted(address)", [0x82, 0x20, 0x96, 0x5a]),
  ("ZeroAddress()", [0xd9, 0x2e, 0x23, 0x3d]),
  ("ZeroAmount()", [0x1f, 0x2a, 0x20, 0x05]),
  ("Panic(uint256)", [0x4e, 0x48, 0x7b, 0x71])]

def keccakCodec : Codec (String × List Value) :=
  .words fun signature =>
    ((keccakSelectors.find? fun entry => entry.1 = signature).map Prod.snd).getD []

theorem keccakCodec_faithful : keccakCodec.Faithful := Codec.words_faithful _

end PropAMM.Abi
