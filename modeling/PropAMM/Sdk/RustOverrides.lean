import PropAMM.Lib.Dict
import PropAMM.Sdk.Json
import PropAMM.Sdk.Pamms

/-! # The Rust SDK's state overrides

The parser of an overrides payload, the cache that stream frames are applied to,
and the merge into one `eth_call` override set. The merge visits hash maps, so it
takes the order of every visit as an argument.
-/

namespace PropAMM.Rust

/-- A `H256` or a `U256`. -/
abbrev SlotDiffs := Dict Word Word
abbrev ContractDiffs := Dict Address SlotDiffs

inductive Error where
  | invalidInput (message : String)
  | overrides (message : String)

/-- The readers of hexadecimal that the SDK takes from its crates. -/
structure Crates where
  /-- `hex::decode` -/
  hexDecode : String → Except String (List UInt8)
  /-- `U256::from_str_radix(_, 16)` -/
  wordFromHex : String → Option Word

structure OverridesSnapshot where
  blockNumber : Option Nat
  slot : Option Nat
  timestampNs : Option Nat
  /-- By pAMM quote address. -/
  perPamm : Dict Address ContractDiffs
  /-- The addresses priced from a quote address. -/
  pricedAddresses : Dict Address (List Address)

def OverridesSnapshot.default : OverridesSnapshot := ⟨none, none, none, .empty, .empty⟩

/-! ## Parsing -/

/-- `trim_start_matches("0x")` -/
def trimStart0x : List Char → List Char
  | '0' :: 'x' :: rest => trimStart0x rest
  | text => text

def addressFromSlice (bytes : List UInt8) : Address :=
  BitVec.ofNat 160 (bytes.foldl (fun n b => n * 256 + b.toNat) 0)

/-- `u64::from_str_radix` -/
def u64FromStrRadix (radix : Nat) (s : String) : Option Nat :=
  let digits := match s.toList with
    | '+' :: rest => rest
    | text => text
  if digits = [] then none else (Text.digitsFrom radix 0 digits).filter (· < 2 ^ 64)

def asU64? : Json → Option Nat
  | .int n => if 0 ≤ n ∧ n < 2 ^ 64 then some n.toNat else none
  | _ => none

def parseBlockNumber (value : Json) : Option Nat :=
  match asU64? value with
  | some number => some number
  | none => value.asStr?.bind fun text =>
    match Text.stripPrefix0x text with
    | some hex => u64FromStrRadix 16 hex
    | none => u64FromStrRadix 10 text

namespace Crates

variable (crates : Crates)

def parseAddress (s : String) : Except Error Address :=
  match crates.hexDecode (String.ofList (trimStart0x s.toList)) with
  | .error e => .error (.invalidInput s!"invalid address {s}: {e}")
  | .ok bytes =>
    if bytes.length ≠ 20 then
      .error (.invalidInput s!"invalid address {s}: expected 20 bytes, got {bytes.length}")
    else .ok (addressFromSlice bytes)

def parseWord (hex : String) : Option Word := (Text.stripPrefix0x hex).bind crates.wordFromHex

/-- One `slot → value` pair of a `stateDiff`; `none` where the loop continues. -/
def parseSlot (field : String × Json) : Option (Word × Word) :=
  match crates.parseWord field.1, field.2.asStr?.bind crates.parseWord with
  | some slot, some value => some (slot, value)
  | _, _ => none

/-- One `contract → spec` pair of a `stateOverride`. -/
def parseContract (field : String × Json) : Option (Address × SlotDiffs) :=
  match (crates.parseAddress field.1).toOption, (field.2.get? "stateDiff").bind Json.asObject? with
  | some address, some stateDiff =>
    let slots : SlotDiffs := Dict.empty.insertAll (stateDiff.filterMap crates.parseSlot)
    if slots.entries = [] then none else some (address, slots)
  | _, _ => none

def parseContractDiffs (payload : Json) : Option ContractDiffs :=
  (((payload.get? "stateOverride").or (payload.get? "state_override")).bind Json.asObject?).bind
    fun overrideMap =>
    let contracts : ContractDiffs :=
      Dict.empty.insertAll (overrideMap.filterMap crates.parseContract)
    if contracts.entries.isEmpty then none else some contracts

/-- What an entry of the `venues` list is cached as; `none` where the loop continues. -/
def parseVenue (venue : Json) : Option (Address × ContractDiffs) :=
  match ((venue.get? "quoteAddress").bind Json.asStr?).bind fun s =>
      (crates.parseAddress s).toOption, crates.parseContractDiffs venue with
  | some quoteAddress, some contracts => some (quoteAddress, contracts)
  | _, _ => none

def parsePriced (venue : Json) : List Address :=
  (((venue.get? "pricedAddresses").bind Json.asArray?).map fun list =>
    list.filterMap fun a => a.asStr?.bind fun s => (crates.parseAddress s).toOption).getD []

def addVenue (snapshot : OverridesSnapshot) (venue : Json) : OverridesSnapshot :=
  match crates.parseVenue venue with
  | none => snapshot
  | some (quoteAddress, contracts) => {
      perPamm := snapshot.perPamm.insert quoteAddress contracts
      pricedAddresses := snapshot.pricedAddresses.insert quoteAddress (crates.parsePriced venue)
      blockNumber := max snapshot.blockNumber ((venue.get? "blockNumber").bind parseBlockNumber)
      slot := max snapshot.slot ((venue.get? "slot").bind parseBlockNumber)
      timestampNs := max snapshot.timestampNs ((venue.get? "timestamp").bind asU64?) }

def parseVenues (venues : List Json) : OverridesSnapshot := venues.foldl crates.addVenue .default

def metaKeys : List String := ["slot", "blockNumber", "block_number", "timestamp"]

/-- One top-level pair of the v1 shape. -/
def parseEntry (field : String × Json) : Option (Address × ContractDiffs) :=
  if field.1 ∈ metaKeys ∨ ¬ Text.startsWith0x field.1 then none
  else match (crates.parseAddress field.1).toOption, crates.parseContractDiffs field.2 with
    | some pamm, some contracts => some (pamm, contracts)
    | _, _ => none

def parseOverridesMessage (raw : Json) : Except Error OverridesSnapshot :=
  match raw.asObject? with
  | none => .error (.overrides "overrides message is not a JSON object")
  | some object =>
    match (raw.get? "venues").bind Json.asArray? with
    | some venues => .ok (crates.parseVenues venues)
    | none => .ok {
        blockNumber := ((raw.get? "blockNumber").or (raw.get? "block_number")).bind parseBlockNumber
        slot := (raw.get? "slot").bind parseBlockNumber
        timestampNs := (raw.get? "timestamp").bind asU64?
        perPamm := Dict.empty.insertAll (object.filterMap crates.parseEntry)
        pricedAddresses := .empty }

/-! ## The crates -/

def bytesOfHex : List Char → Option (List UInt8)
  | [] => some []
  | [_] => none
  | hi :: lo :: rest => (Text.toDigit 16 hi).bind fun h => (Text.toDigit 16 lo).bind fun l =>
    (bytesOfHex rest).map fun bytes => UInt8.ofNat (16 * h + l) :: bytes

/-- The readers as the crates document them. -/
def documented : Crates where
  hexDecode s :=
    if s.utf8ByteSize % 2 = 1 then .error "Odd number of digits"
    else match bytesOfHex s.toList with
      | some bytes => .ok bytes
      | none => .error "Invalid character"
  wordFromHex s :=
    let hex := ((Text.stripPrefix0x s).getD s).toList
    if hex.length > 64 then none else (Text.digitsFrom 16 0 hex).map (BitVec.ofNat 256)

/-! ## The stream's cache -/

/-- `OverridesWsHandler::apply_frame`, from what `serde_json` makes of the frame's text. -/
def applyFrame (snapshot : OverridesSnapshot) (text : Option Json) : OverridesSnapshot × Bool :=
  match text with
  | none => (snapshot, false)
  | some value =>
    match crates.parseOverridesMessage value with
    | .error _ => (snapshot, false)
    | .ok frame => ({
        perPamm := snapshot.perPamm.insertAll frame.perPamm.entries
        pricedAddresses := snapshot.pricedAddresses.insertAll frame.pricedAddresses.entries
        blockNumber := frame.blockNumber.or snapshot.blockNumber
        slot := frame.slot.or snapshot.slot
        timestampNs := frame.timestampNs.or snapshot.timestampNs }, true)

end Crates

/-! ## The merge -/

structure ToStateOverrideOptions where
  /-- Restrict to the entries for these pAMMs. -/
  pamms : Option (List Address)
  skipBebopDefault : Bool

/-- The storage diffs of an `eth_call` state override. -/
abbrev StateOverrideSet := Dict Address SlotDiffs

/-- The order of every visit of one merge. -/
structure HashOrder where
  perPamm : Dict.Visit Address ContractDiffs
  /-- By pAMM. -/
  contracts : Address → Dict.Visit Address SlotDiffs
  /-- By pAMM and contract. -/
  slots : Address → Address → Dict.Visit Word Word
  merged : Dict.Visit Address SlotDiffs
  /-- By contract. -/
  mergedSlots : Address → Dict.Visit Word Word

def bebopDefaultSlot : Word := 0x3ca381a3d43d4e593578057c4abe441ad9df02f080defd17d2b6e6190cdcd936

def entrySelected (snapshot : OverridesSnapshot) (quoteAddress : Address)
    (selected : List Address) : Bool :=
  selected.contains quoteAddress
    || selected.contains (venueForQuoteAddress quoteAddress)
    || (snapshot.pricedAddresses.get? quoteAddress).any fun priced => priced.any selected.contains

/-- The variables of the loop over the entries. -/
structure Merging where
  merged : Dict Address SlotDiffs
  bebopPresent : Bool

def Merging.visit (order : HashOrder) (snapshot : OverridesSnapshot)
    (options : ToStateOverrideOptions) (m : Merging) (entry : Address × ContractDiffs) : Merging :=
  if options.pamms.any fun s => !entrySelected snapshot entry.1 s then m
  else {
    bebopPresent := m.bebopPresent || entry.1 = bebop
    merged := (order.contracts entry.1 entry.2).1.foldl
      (fun merged c => merged.extendAt c.1 (order.slots entry.1 c.1 c.2).1) m.merged }

def toStateOverride (order : HashOrder) (snapshot : OverridesSnapshot)
    (options : ToStateOverrideOptions) : StateOverrideSet :=
  let m := (order.perPamm snapshot.perPamm).1.foldl (Merging.visit order snapshot options)
    ⟨.empty, false⟩
  let merged :=
    if !options.skipBebopDefault && !m.bebopPresent then m.merged.extendAt bebop
      [(bebopDefaultSlot, 0)]
    else m.merged
  (order.merged merged).1.foldl (fun set e => set.extendAt e.1 (order.mergedSlots e.1 e.2).1) .empty

/-! ## What the merge emits -/

/-- The entries the merge does not skip, in the order of its visit. -/
def keptEntries (order : HashOrder) (snapshot : OverridesSnapshot)
    (options : ToStateOverrideOptions) : List (Address × ContractDiffs) :=
  (order.perPamm snapshot.perPamm).1.filter fun e => !options.pamms.any fun s =>
    !entrySelected snapshot e.1 s

def injectsDefault (order : HashOrder) (snapshot : OverridesSnapshot)
    (options : ToStateOverrideOptions) : Bool :=
  !options.skipBebopDefault && !(keptEntries order snapshot options).any fun e => e.1 = bebop

variable (order : HashOrder) (snapshot : OverridesSnapshot) (options : ToStateOverrideOptions)

theorem Merging.visit_kept {m : Merging} {e : Address × ContractDiffs}
    (kept : (options.pamms.any fun s => !entrySelected snapshot e.1 s) = false) (contract : Address)
    (slot : Word) :
    (m.visit order snapshot options e).bebopPresent = (m.bebopPresent || e.1 = bebop)
      ∧ (m.visit order snapshot options e).merged.at? contract slot
          = (e.2.at? contract slot).or (m.merged.at? contract slot) := by
  unfold visit
  rw [kept]
  refine ⟨rfl, ?_⟩
  have block :=
    Dict.at?_extendAll m.merged (Dict.visited (order.contracts e.1) (order.slots e.1) e.2)
      contract slot
  rw [Dict.last_visited, Dict.visited, List.foldl_map] at block
  exact block

theorem Merging.foldl_visit (m : Merging) (entries : List (Address × ContractDiffs))
    (contract : Address) (slot : Word) :
    let kept := entries.filter fun e => !options.pamms.any fun s => !entrySelected snapshot e.1 s
    let m' := entries.foldl (Merging.visit order snapshot options) m
    m'.bebopPresent = (m.bebopPresent || kept.any fun e => e.1 = bebop)
      ∧ m'.merged.at? contract slot
          = (kept.filterMap fun e => e.2.at? contract slot).getLast?.or
            (m.merged.at? contract slot) := by
  induction entries using List.reverseRecOn with
  | nil => simp
  | append_singleton entries e ih =>
      obtain ⟨present, merged⟩ := ih
      rw [List.filter_append, List.foldl_concat]
      cases kept : options.pamms.any fun s => !entrySelected snapshot e.1 s with
      | true =>
          have skipped : Merging.visit order snapshot options
              (entries.foldl (Merging.visit order snapshot options) m) e =
                entries.foldl (Merging.visit order snapshot options) m := if_pos kept
          rw [skipped]
          simp [kept, present, merged]
      | false =>
          obtain ⟨here, written⟩ := Merging.visit_kept order snapshot options
            (m := entries.foldl (Merging.visit order snapshot options) m) kept contract slot
          refine ⟨?_, ?_⟩
          · rw [here, present]
            simp [kept, Bool.or_assoc]
          · rw [written, merged]
            cases at_e : e.2.at? contract slot <;> simp [kept, at_e]

/-- The default slot aside, the kept entry visited last among those that write a slot decides it. -/
theorem at?_toStateOverride (contract : Address) (slot : Word) :
    (toStateOverride order snapshot options).at? contract slot =
      if injectsDefault order snapshot options ∧ contract = bebop ∧ slot = bebopDefaultSlot then
        some 0
      else ((keptEntries order snapshot options).filterMap fun e =>
        e.2.at? contract slot).getLast? := by
  obtain ⟨present, merged⟩ := Merging.foldl_visit order snapshot options ⟨.empty, false⟩
    (order.perPamm snapshot.perPamm).1 contract slot
  unfold toStateOverride injectsDefault keptEntries
  rw [Dict.at?_copy, present, Bool.false_or]
  have merged := merged.trans Option.or_none
  split
  · rename_i injected
    rw [Dict.at?_extendAt]
    by_cases atBebop : bebop = contract
    · subst atBebop
      by_cases atSlot : bebopDefaultSlot = slot
      · subst atSlot
        rw [if_pos rfl, if_pos ⟨injected, rfl, rfl⟩]
        rfl
      · have unwritten : WriteLog.last [(bebopDefaultSlot, (0 : Word))] slot = none := by
          apply WriteLog.last_eq_none
          simpa using atSlot
        rw [if_pos rfl, if_neg fun all => atSlot all.2.2.symm, unwritten, Option.none_or]
        exact merged
    · rw [if_neg atBebop, if_neg fun all => atBebop all.2.1.symm]
      exact merged
  · rename_i not_injected
    rw [if_neg fun all => not_injected all.1]
    exact merged

end PropAMM.Rust
