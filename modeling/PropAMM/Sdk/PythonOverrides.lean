import PropAMM.Sdk.OverridePayload
import PropAMM.Sdk.Pamms

/-! # The Python SDK's state overrides

The parser of a v2 payload and the merge into one `eth_call` override. Words are read
with `int` and never checked against 32 bytes; a contract key meets its first check in
the merge, which raises on what is not an address.
-/

namespace PropAMM.Python.Overrides

open Text PropAMM.Overrides

/-- Slot to value. -/
abbrev SlotDiffs := Dict Int Int
abbrev ContractDiffs := Dict String SlotDiffs

/-- What the interpreter knows of characters outside ASCII, and the checksum library. -/
structure Library where
  /-- `str.lower` of a text that is not ASCII -/
  lower : String → String
  /-- The value of a decimal digit that is not ASCII. -/
  decimal : Char → Option Nat
  /-- White space that is not ASCII. -/
  space : Char → Bool
  /-- `eth_utils.to_checksum_address`; `none` where it raises. -/
  toChecksumAddress : String → Option String

/-- The checksummed text of an address, which differs from it in letter case. -/
def Library.Documented (lib : Library) : Prop :=
  ∀ a, ∃ t, lib.toChecksumAddress (addressText a) = some t ∧ address? t = some a

structure OverridesSnapshot where
  blockNumber : Option Int
  slot : Option Int
  timestampNs : Option Int
  /-- By pAMM quote address, lower case. -/
  perPamm : Dict String ContractDiffs
  /-- The addresses priced from a quote address, lower case. -/
  pricedAddresses : Dict String (List String)

def OverridesSnapshot.default : OverridesSnapshot := ⟨none, none, none, .empty, .empty⟩

/-- `_max` -/
def maxOf (current new : Option Int) : Option Int :=
  match new with
  | none => current
  | some new =>
      match current with
      | none => some new
      | some current => if new > current then some new else some current

def truthy : Json → Bool
  | .null => false
  | .bool b => b
  | .int n => n ≠ 0
  | .float whole => whole ≠ some 0
  | .infinite => true
  | .str s => s ≠ ""
  | .arr items => !items.isEmpty
  | .obj fields => !fields.isEmpty

/-- `payload.get(key) or other` -/
def getOr (payload : Json) (key other : String) : Option Json :=
  match payload.get? key with
  | some value => if truthy value then some value else payload.get? other
  | none => payload.get? other

/-- What follows the prefix of the radix 16, and an underscore after it. -/
def afterPrefix (radix : Nat) (text : List Char) : List Char :=
  match radix, text with
  | 16, '0' :: 'x' :: '_' :: rest | 16, '0' :: 'X' :: '_' :: rest => rest
  | 16, '0' :: 'x' :: rest | 16, '0' :: 'X' :: rest => rest
  | _, text => text

namespace Library

variable (lib : Library)

/-! ## `str.lower` and `int` -/

def strLower (s : String) : String := if isAscii s then lowerAscii s else lib.lower s

def isSpace (c : Char) : Bool :=
  if c.toNat < 128 then c.isWhitespace || c.toNat = 11 || c.toNat =
    12 || (28 ≤ c.toNat && c.toNat ≤ 31)
  else lib.space c

def digit (radix : Nat) (c : Char) : Option Nat :=
  if c.toNat < 128 then toDigit radix c else (lib.decimal c).filter (· < radix)

/-- The digits after a first one, with an underscore between two at most. -/
def digitsAfter (radix : Nat) (n : Nat) : List Char → Option Nat
  | [] => some n
  | '_' :: c :: cs => (lib.digit radix c).bind fun d => digitsAfter radix (n * radix + d) cs
  | c :: cs => (lib.digit radix c).bind fun d => digitsAfter radix (n * radix + d) cs

def unsigned (radix : Nat) (text : List Char) : Option Nat :=
  match afterPrefix radix text with
  | [] => none
  | c :: cs => (lib.digit radix c).bind fun d => lib.digitsAfter radix d cs

/-- `int(text, radix)`; `none` where it raises. -/
def int (radix : Nat) (text : List Char) : Option Int :=
  let text := ((text.dropWhile lib.isSpace).reverse.dropWhile lib.isSpace).reverse
  match text with
  | '-' :: text => (lib.unsigned radix text).map fun n => -(n : Int)
  | '+' :: text => (lib.unsigned radix text).map Int.ofNat
  | text => (lib.unsigned radix text).map Int.ofNat

/-! ## Parsing -/

def parseWord (value : String) : Option Int :=
  (stripPrefix0x value).bind fun hex => lib.int 16 hex.toList

def parseBlockNumber : Json → Option Int
  | .int n => some n
  | .str "" => none
  | .str s =>
      match stripPrefix0x s with
      | some hex => lib.int 16 hex.toList
      | none => lib.int 10 s.toList
  | _ => none

/-- One `slot → value` pair of a `stateDiff`; `none` where the loop continues. -/
def parseSlot (field : String × Json) : Option (Int × Int) :=
  match lib.parseWord field.1, field.2.asStr?.bind lib.parseWord with
  | some slot, some value => some (slot, value)
  | _, _ => none

/-- One `contract → spec` pair of a `stateOverride`. -/
def parseContract (field : String × Json) : Option (String × SlotDiffs) :=
  ((field.2.get? "stateDiff").bind Json.asObject?).bind fun stateDiff =>
    let slots : SlotDiffs := Dict.empty.insertAll (stateDiff.filterMap lib.parseSlot)
    if slots.entries.isEmpty then none else some (lib.strLower field.1, slots)

def parseContractDiffs (payload : Json) : Option ContractDiffs :=
  ((getOr payload "stateOverride" "state_override").bind Json.asObject?).bind fun overrideMap =>
    let contracts : ContractDiffs := Dict.empty.insertAll (overrideMap.filterMap lib.parseContract)
    if contracts.entries.isEmpty then none else some contracts

/-- What an entry of the `venues` list is kept as; `none` where the loop continues. -/
def parseVenue (venue : Json) : Option (String × ContractDiffs) :=
  match (venue.get? "quoteAddress").bind Json.asStr?, lib.parseContractDiffs venue with
  | some quoteAddress, some contracts => some (lib.strLower quoteAddress, contracts)
  | _, _ => none

def parsePriced (venue : Json) : List String :=
  (((venue.get? "pricedAddresses").bind Json.asArray?).getD []).filterMap fun a =>
    a.asStr?.map lib.strLower

def asInt? : Json → Option Int
  | .int n => some n
  | _ => none

def addVenue (snapshot : OverridesSnapshot) (venue : Json) : OverridesSnapshot :=
  match lib.parseVenue venue with
  | none => snapshot
  | some (key, contracts) => {
      perPamm := snapshot.perPamm.insert key contracts
      pricedAddresses := snapshot.pricedAddresses.insert key (lib.parsePriced venue)
      blockNumber :=
        maxOf snapshot.blockNumber ((venue.get? "blockNumber").bind lib.parseBlockNumber)
      slot := maxOf snapshot.slot ((venue.get? "slot").bind lib.parseBlockNumber)
      timestampNs := maxOf snapshot.timestampNs ((venue.get? "timestamp").bind asInt?) }

def parseVenues (venues : List Json) : OverridesSnapshot := venues.foldl lib.addVenue .default

def metaKeys : List String := ["slot", "blockNumber", "block_number", "timestamp"]

/-- One top-level pair of the v1 shape. -/
def parseEntry (field : String × Json) : Option (String × ContractDiffs) :=
  if field.1 ∈ metaKeys ∨ ¬ startsWith0x field.1 then none
  else (lib.parseContractDiffs field.2).map fun contracts => (lib.strLower field.1, contracts)

/-- `none` where it raises. -/
def parseOverridesMessage (raw : Json) : Option OverridesSnapshot :=
  raw.asObject?.map fun object =>
    match (raw.get? "venues").bind Json.asArray? with
    | some venues => lib.parseVenues venues
    | none => {
        blockNumber :=
          ((raw.get? "blockNumber").or (raw.get? "block_number")).bind lib.parseBlockNumber
        slot := (raw.get? "slot").bind lib.parseBlockNumber
        timestampNs := (raw.get? "timestamp").bind fun timestamp =>
          match timestamp with
          -- A bool is an `int` here, which the v2 entries rule out.
          | .bool b => some (if b then 1 else 0)
          | timestamp => asInt? timestamp
        perPamm := Dict.empty.insertAll (object.filterMap lib.parseEntry)
        pricedAddresses := .empty }

end Library

/-! ## The merge -/

def bebopLower : String := addressText bebop

def bebopDefaultSlot : Int := 0x3ca381a3d43d4e593578057c4abe441ad9df02f080defd17d2b6e6190cdcd936

/-- `QUOTE_ADDRESS_VENUES`, the venues lowered. -/
def venueOf (quoteAddress : String) : Option String :=
  (quoteAddressVenues.find? fun e => addressText e.1 = quoteAddress).map fun e => addressText e.2

def entrySelected (snapshot : OverridesSnapshot) (quoteAddress : String) (selected : List String) :
    Bool :=
  selected.contains quoteAddress
    || (venueOf quoteAddress).any selected.contains
    || ((snapshot.pricedAddresses.get? quoteAddress).getD []).any selected.contains

/-- `format(value, "x")` to at least `width` characters, zeros after the sign. -/
def formatHex (width : Nat) (value : Int) : List Char :=
  let sign := if value < 0 then ['-'] else []
  let digits := Nat.toDigits 16 value.natAbs
  sign ++ (List.replicate (width - sign.length - digits.length) '0' ++ digits)

/-- `_word` -/
def word (value : Int) : String := String.ofList ('0' :: 'x' :: formatHex 64 value)

structure Options where
  pamms : Option (List String)
  bebopDefault : Bool

/-- The variables of the loop over the entries. -/
structure Merging where
  merged : Dict String SlotDiffs
  bebopPresent : Bool

namespace Library

variable (lib : Library)

def selected (options : Options) : Option (List String) :=
  options.pamms.map fun pamms => pamms.map lib.strLower

def visit (snapshot : OverridesSnapshot) (options : Options) (m : Merging)
    (entry : String × ContractDiffs) : Merging :=
  if (lib.selected options).any fun selected => !entrySelected snapshot entry.1 selected then m
  else {
    bebopPresent := m.bebopPresent || entry.1 = bebopLower
    merged := entry.2.entries.foldl (fun merged c => merged.extendAt c.1 c.2.entries) m.merged }

/-- The merged diffs, Bebop's price slot zeroed where no entry of its own is there. -/
def merge (snapshot : OverridesSnapshot) (options : Options) : Dict String SlotDiffs :=
  let m := snapshot.perPamm.entries.foldl (lib.visit snapshot options) ⟨.empty, false⟩
  if options.bebopDefault && !m.bebopPresent then m.merged.extendAt bebopLower
    [(bebopDefaultSlot, 0)]
  else m.merged

/-- One contract of the result; `none` where its key raises. -/
def render (e : String × SlotDiffs) : Option (String × List (String × String)) :=
  (lib.toChecksumAddress e.1).map fun address =>
    (address, (Dict.empty.insertAll (e.2.entries.map fun d => (word d.1, word d.2))).entries)

/-- `none` where it raises. -/
def toStateOverride (snapshot : OverridesSnapshot) (options : Options) : Option StateOverride :=
  ((lib.merge snapshot options).entries.mapM lib.render).map fun pairs =>
    (Dict.empty.insertAll pairs).entries

/-- Parse, then flatten; `none` where either raises. -/
def overrides (raw : Json) (options : Options) : Option StateOverride :=
  (lib.parseOverridesMessage raw).bind fun snapshot => lib.toStateOverride snapshot options

end Library


/-! ## Well-formed entries -/

/-- A 32-byte word. -/
def InWord (v : Int) : Prop := 0 ≤ v ∧ v < 2 ^ 256

/-- Contract keys are addresses, slots and values 32-byte words. -/
def SoundDiffs (contracts : ContractDiffs) : Prop :=
  ∀ c ∈ contracts.entries, (∃ a, c.1 = addressText a) ∧ ∀ d ∈ c.2.entries, InWord d.1 ∧ InWord d.2

namespace Library

variable (lib : Library)

theorem strLower_address {s : String} {a : Address} (h : address? s = some a) :
    lib.strLower s = addressText a := by
  obtain ⟨ascii, lower⟩ := lower_address h
  rw [strLower, if_pos ascii, lower]

/-- A hexadecimal digit is neither white space nor anything else that `int` looks for. -/
theorem hex_char {c : Char} {d : Nat} (h : toDigit 16 c = some d) :
    lib.isSpace c = false ∧ c ≠ '-' ∧ c ≠ '+' ∧ c ≠ '_' ∧ c ≠ 'x' ∧ c ≠ 'X' := by
  have ascii := ascii_of_toDigit h
  have all : ∀ n : Fin 128, (toDigit 16 (Char.ofNat n)).isSome →
      ((Char.ofNat n).isWhitespace || (Char.ofNat n).toNat = 11 || (Char.ofNat n).toNat = 12 ||
        (28 ≤ (Char.ofNat n).toNat && (Char.ofNat n).toNat ≤ 31)) = false := by
    decide
  have space := all ⟨c.toNat, ascii⟩
  rw [Char.ofNat_toNat, h] at space
  refine ⟨?_, ?_, ?_, ?_, ?_, ?_⟩
  · rw [isSpace, if_pos ascii]
    exact space rfl
  all_goals
    rintro rfl
    cases h

theorem digitsAfter_eq {n m : Nat} {l : List Char} (h : digitsFrom 16 n l = some m) :
    lib.digitsAfter 16 n l = some m := by
  induction l generalizing n with
  | nil => exact h
  | cons c cs ih =>
      obtain ⟨d, value, rest⟩ := Option.bind_eq_some_iff.mp h
      have step : lib.digitsAfter 16 n (c :: cs) =
          (lib.digit 16 c).bind fun d => lib.digitsAfter 16 (n * 16 + d) cs := by
        rw [digitsAfter]
        intro _ _ underscore
        exact absurd underscore (lib.hex_char value).2.2.2.1
      rw [step, digit, if_pos (ascii_of_toDigit value), value, Option.bind_some, ih rest]

theorem int_of_digits {n : Nat} {l : List Char} (nonempty : l ≠ [])
    (h : digitsFrom 16 0 l = some n) : lib.int 16 l = some (n : Int) := by
  have chars := fun c (member : c ∈ l) => (digit_of_mem h c member).elim fun _ => lib.hex_char
  have stripped : ∀ l' : List Char, (∀ c ∈ l', c ∈ l) → l'.dropWhile lib.isSpace = l' := by
    intro l' sub
    cases l' with
    | nil => rfl
    | cons c cs =>
        exact List.dropWhile_cons_of_neg (by simp [(chars c (sub c List.mem_cons_self)).1])
  have strip : ((l.dropWhile lib.isSpace).reverse.dropWhile lib.isSpace).reverse = l := by
    rw [stripped l fun _ member => member, stripped l.reverse fun _ => List.mem_reverse.mp,
      List.reverse_reverse]
  obtain ⟨c, cs, rfl⟩ := List.exists_cons_of_ne_nil nonempty
  obtain ⟨d, value, rest⟩ := Option.bind_eq_some_iff.mp h
  have noPrefix : afterPrefix 16 (c :: cs) = c :: cs := by
    unfold afterPrefix
    split <;> rename_i same
    · cases same
      exact absurd rfl (chars 'x' (by simp)).2.2.2.2.1
    · cases same
      exact absurd rfl (chars 'X' (by simp)).2.2.2.2.2
    · cases same
      exact absurd rfl (chars 'x' (by simp)).2.2.2.2.1
    · cases same
      exact absurd rfl (chars 'X' (by simp)).2.2.2.2.2
    · rfl
  have unsigned : lib.unsigned 16 (c :: cs) = some n := by
    rw [unsigned, noPrefix]
    show (lib.digit 16 c).bind _ = _
    rw [digit, if_pos (ascii_of_toDigit value), value, Option.bind_some]
    rw [Nat.zero_mul, Nat.zero_add] at rest
    exact lib.digitsAfter_eq rest
  rw [int, strip]
  split
  · rename_i same
    exact absurd (List.cons.inj same).1 (chars c List.mem_cons_self).2.1
  · rename_i same
    exact absurd (List.cons.inj same).1 (chars c List.mem_cons_self).2.2.1
  · rw [unsigned]
    rfl

theorem parseWord_short {s : String} {w : Word} (h : shortWord? s = some w) :
    lib.parseWord s = some (w.toNat : Int) := by
  obtain ⟨hex, text, nonempty, value⟩ := shortWord?_eq_some h
  have stripped : stripPrefix0x s = some (String.ofList hex) := by
    unfold stripPrefix0x
    rw [text]
    rfl
  rw [parseWord, stripped, Option.bind_some, String.toList_ofList, lib.int_of_digits nonempty value]

theorem inWord_toNat (w : Word) : InWord (w.toNat : Int) :=
  ⟨Int.natCast_nonneg _, by exact_mod_cast w.isLt⟩

theorem slot_sound {field : String × Json} (wellFormed : WellFormedDiff field) {d : Int × Int}
    (parsed : lib.parseSlot field = some d) : InWord d.1 ∧ InWord d.2 := by
  obtain ⟨slot, value, text, short⟩ := wellFormed
  obtain ⟨s, hs⟩ := Option.isSome_iff_exists.mp slot
  obtain ⟨v, hv⟩ := Option.isSome_iff_exists.mp short
  have read : field.2.asStr?.bind lib.parseWord = some (v.toNat : Int) := by
    rw [text]
    exact lib.parseWord_short hv
  rw [parseSlot, lib.parseWord_short hs, read] at parsed
  cases parsed
  exact ⟨inWord_toNat s, inWord_toNat v⟩

theorem contract_sound {field : String × Json} (wellFormed : WellFormedContract field)
    {c : String × SlotDiffs} (parsed : lib.parseContract field = some c) :
    (∃ a, c.1 = addressText a) ∧ ∀ d ∈ c.2.entries, InWord d.1 ∧ InWord d.2 := by
  obtain ⟨address, stateDiff, spec, diffs⟩ := wellFormed
  obtain ⟨a, ha⟩ := Option.isSome_iff_exists.mp address
  rw [parseContract, spec] at parsed
  simp only [Option.bind_some, Json.asObject?] at parsed
  split at parsed
  · cases parsed
  · cases parsed
    refine ⟨⟨a, lib.strLower_address ha⟩, fun d member => ?_⟩
    obtain ⟨diff, listed, read⟩ := Dict.mem_of_mem_insertAll_filterMap member
    exact lib.slot_sound (diffs diff listed) read

theorem venue_sound {venue : Json} (wellFormed : WellFormed venue) {e : String × ContractDiffs}
    (parsed : lib.parseVenue venue = some e) : SoundDiffs e.2 := by
  obtain ⟨contracts, stateOverride, each⟩ := wellFormed.stateOverride
  have chosen : ∀ fields, (getOr venue "stateOverride" "state_override").bind Json.asObject? =
      some fields → fields = contracts := by
    intro fields read
    simp only [getOr, stateOverride, wellFormed.state_override] at read
    split at read
    · exact (Option.some.inj read).symm
    · cases read
  unfold parseVenue at parsed
  split at parsed
  · rename_i diffs _ kept
    cases parsed
    unfold parseContractDiffs at kept
    obtain ⟨fields, read, kept⟩ := Option.bind_eq_some_iff.mp kept
    rw [chosen fields read] at kept
    dsimp only at kept
    split at kept
    · cases kept
    · cases kept
      intro c member
      obtain ⟨field, listed, read⟩ := Dict.mem_of_mem_insertAll_filterMap member
      exact lib.contract_sound (each field listed) read
  · cases parsed

/-! ## What the parser keeps -/

theorem perPamm_parseVenues (venues : List Json) :
    (lib.parseVenues venues).perPamm = Dict.empty.insertAll (venues.filterMap lib.parseVenue) ∧
      (lib.parseVenues venues).pricedAddresses = Dict.empty.insertAll (venues.filterMap fun venue =>
        (lib.parseVenue venue).map fun e => (e.1, lib.parsePriced venue)) := by
  induction venues using List.reverseRecOn with
  | nil => exact ⟨rfl, rfl⟩
  | append_singleton venues venue ih =>
      have step : lib.parseVenues (venues ++ [venue]) = lib.addVenue (lib.parseVenues venues)
          venue :=
        List.foldl_concat ..
      rw [step, addVenue, List.filterMap_append, List.filterMap_append]
      cases parsed : lib.parseVenue venue with
      | none => simp [parsed, ih]
      | some e => simp [parsed, ih, Dict.insertAll]

end Library


/-! ## What the merge emits -/

namespace Library

variable (lib : Library) (snapshot : OverridesSnapshot) (options : Options)

def selects (quoteAddress : String) : Bool :=
  !(lib.selected options).any fun selected => !entrySelected snapshot quoteAddress selected

/-- The entries the merge does not skip. -/
def kept : List (String × ContractDiffs) :=
  snapshot.perPamm.entries.filter fun e => lib.selects snapshot options e.1

def injects : Bool :=
  options.bebopDefault && !(lib.kept snapshot options).any fun e => e.1 = bebopLower

/-- Bebop's price slot, where no entry of its own is kept. -/
def defaultBlock : List (String × List (Int × Int)) :=
  if lib.injects snapshot options then [(bebopLower, [(bebopDefaultSlot, 0)])] else []

theorem foldl_visit (m : Merging) (entries : List (String × ContractDiffs)) :
    let kept := entries.filter fun e => lib.selects snapshot options e.1
    entries.foldl (lib.visit snapshot options) m =
      ⟨(kept.flatMap (blocks Dict.inserted Dict.inserted)).foldl
        (fun d b => d.extendAt b.1 b.2) m.merged, m.bebopPresent || kept.any fun e =>
          e.1 = bebopLower⟩ := by
  induction entries generalizing m with
  | nil => simp
  | cons e entries ih =>
      rw [List.foldl_cons, ih]
      by_cases selected : lib.selects snapshot options e.1 = true
      · have visited : lib.visit snapshot options m e =
            ⟨e.2.entries.foldl (fun merged c => merged.extendAt c.1 c.2.entries) m.merged,
              m.bebopPresent || e.1 = bebopLower⟩ := if_neg (by simpa [selects] using selected)
        have filtered : (e :: entries).filter (fun e => lib.selects snapshot options e.1) =
            e :: entries.filter fun e => lib.selects snapshot options e.1 :=
          List.filter_cons_of_pos selected
        simp only [visited, filtered, List.flatMap_cons, List.foldl_append, List.any_cons, blocks,
          List.foldl_map, Bool.or_assoc]
        rfl
      · have skipped : lib.visit snapshot options m e = m :=
          if_pos (by simpa [selects] using selected)
        have filtered : (e :: entries).filter (fun e => lib.selects snapshot options e.1) =
            entries.filter fun e => lib.selects snapshot options e.1 :=
          List.filter_cons_of_neg selected
        simp only [skipped, filtered]

theorem merge_eq : lib.merge snapshot options =
    Dict.ofBlocks ((lib.kept snapshot options).flatMap (blocks Dict.inserted Dict.inserted) ++
      lib.defaultBlock snapshot options) := by
  rw [merge, foldl_visit, Dict.ofBlocks, List.foldl_append, defaultBlock]
  show (if lib.injects snapshot options then _ else _) = _
  by_cases injected : lib.injects snapshot options = true
  · rw [if_pos injected, if_pos injected]
    rfl
  · rw [if_neg injected, if_neg injected]
    rfl

end Library

/-! ## Words -/

/-- The key of a slot. -/
def slotIs (slot : Word) (key : Int) : Bool := key = slot.toNat

theorem padded_toDigits {width n : Nat} (pos : 0 < width) (small : n < 16 ^ width) :
    List.replicate (width - (Nat.toDigits 16 n).length) '0' ++ Nat.toDigits 16 n =
      fixedHex width n := by
  induction width generalizing n with
  | zero => cases pos
  | succ width ih =>
      have zeros : ∀ w, fixedHex w 0 = List.replicate w '0' := by
        intro w
        induction w with
        | zero => rfl
        | succ w ih =>
            rw [fixedHex, Nat.zero_div, ih, List.replicate_succ']
            rfl
      by_cases single : n < 16
      · rw [Nat.toDigits_of_lt_base single, fixedHex, Nat.div_eq_of_lt single, zeros,
          Nat.mod_eq_of_lt single]
        rfl
      · have more : 16 ≤ n := Nat.not_lt.mp single
        have front : n / 16 < 16 ^ width := Nat.div_lt_of_lt_mul (Nat.pow_succ' ▸ small)
        have wide : 0 < width := by
          rcases Nat.eq_zero_or_pos width with rfl | wide
          · omega
          · exact wide
        rw [Nat.toDigits_of_base_le (by decide) more, List.length_append, List.length_singleton,
          Nat.add_sub_add_right, ← List.append_assoc, ih wide front, fixedHex]

theorem word_of_inWord {v : Int} (range : InWord v) :
    word v = wordText (BitVec.ofNat 256 v.toNat) := by
  obtain ⟨nonneg, small⟩ := range
  have bound : v.toNat < 2 ^ 256 := by omega
  have same : v.natAbs = v.toNat := by omega
  have digits : (BitVec.ofNat 256 v.toNat).toNat = v.toNat := by
    rw [BitVec.toNat_ofNat, Nat.mod_eq_of_lt bound]
  have hex : formatHex 64 v = fixedHex 64 v.toNat := by
    rw [formatHex, if_neg (by omega), same]
    exact padded_toDigits (by decide) (Nat.lt_of_lt_of_le bound (by norm_num))
  rw [word, wordText, hex, digits]

theorem word?_word {v : Int} (range : InWord v) :
    word? (word v) = some (BitVec.ofNat 256 v.toNat) := by
  rw [word_of_inWord range, word?_wordText]

theorem word?_word_iff {v : Int} (range : InWord v) (slot : Word) :
    word? (word v) = some slot ↔ slotIs slot v = true := by
  have bound : v.toNat < 2 ^ 256 := by
    have := range.2
    omega
  rw [word?_word range, Option.some_inj, slotIs, decide_eq_true_iff]
  constructor
  · rintro rfl
    rw [BitVec.toNat_ofNat, Nat.mod_eq_of_lt bound, Int.toNat_of_nonneg range.1]
  · rintro rfl
    rw [Int.toNat_natCast, BitVec.ofNat_toNat, BitVec.setWidth_eq]

theorem word_injective {v w : Int} (hv : InWord v) (hw : InWord w) (same : word v = word w) :
    v = w := by
  have read := (word?_word_iff hv (BitVec.ofNat 256 w.toNat)).mp (same ▸ word?_word hw)
  have here := (word?_word_iff hw (BitVec.ofNat 256 w.toNat)).mp (word?_word hw)
  exact (of_decide_eq_true read).trans (of_decide_eq_true here).symm


/-! ## One entry among others -/

namespace Library

variable (lib : Library)

theorem renders_of_sound {lib : Library} (documented : lib.Documented) {e : String × SlotDiffs}
    (key : ∃ a, e.1 = addressText a) (words : ∀ d ∈ e.2.entries, InWord d.1 ∧ InWord d.2) :
    Renders lib.render Dict.inserted slotIs word e := by
  obtain ⟨a, key⟩ := key
  obtain ⟨t, checksum, address⟩ := documented a
  have once : ((e.2.entries.map fun d => (word d.1, word d.2)).map Prod.fst).Nodup := by
    have keys : (e.2.entries.map fun d => (word d.1, word d.2)).map Prod.fst =
        (e.2.entries.map Prod.fst).map word := by
      rw [List.map_map, List.map_map]
      rfl
    rw [keys]
    refine List.Nodup.map_on ?_ e.2.nodup
    intro k hk k' hk' same
    obtain ⟨d, member, rfl⟩ := List.mem_map.mp hk
    obtain ⟨d', member', rfl⟩ := List.mem_map.mp hk'
    exact word_injective (words d member).1 (words d' member').1 same
  refine ⟨a, (t, e.2.entries.map fun d => (word d.1, word d.2)), key, ?_, address, ?_, ?_⟩
  · rw [render, key, checksum, Option.map_some, Dict.entries_insertAll once]
  · intro d member
    obtain ⟨d, written, rfl⟩ := List.mem_map.mp member
    obtain ⟨slot, value⟩ := words d written
    exact ⟨by rw [word?_word slot]; rfl, by rw [word?_word value]; rfl⟩
  · intro s
    have keys : (e.2.entries.filter fun d => word? (word d.1) = some s) =
        e.2.entries.filter fun d => slotIs s d.1 := by
      refine List.filter_congr fun d member => ?_
      rw [Bool.eq_iff_iff, decide_eq_true_iff]
      exact word?_word_iff (words d member).1 s
    show ((e.2.entries.map fun d => (word d.1, word d.2)).filter fun d => word? d.1 = some s).map
      Prod.snd = (e.2.entries.filter fun d => slotIs s d.1).map fun d => word d.2
    rw [List.filter_map, List.map_map, ← keys]
    rfl

/-- A snapshot of sound entries is flattened without an error. -/
theorem toStateOverride_sound {lib : Library} (documented : lib.Documented)
    {snapshot : OverridesSnapshot} (sound : ∀ e ∈ snapshot.perPamm.entries, SoundDiffs e.2)
    (options : Options) :
    ∃ override, lib.toStateOverride snapshot options = some override ∧ Typed override ∧
      ∀ a s, valuesAt override a s =
        (((lib.merge snapshot options).cell (addressText a)).restrict (slotIs s)).entries.map
          fun d => word d.2 := by
  have merged : ∀ e ∈ (lib.merge snapshot options).entries,
      (∃ a, e.1 = addressText a) ∧ ∀ d ∈ e.2.entries, InWord d.1 ∧ InWord d.2 := by
    rw [merge_eq]
    refine forall_merged (K := fun key => ∃ a, key = addressText a)
      (W := fun d => InWord d.1 ∧ InWord d.2) (fun e kept => sound e (List.mem_of_mem_filter kept))
      fun b default => ?_
    rw [defaultBlock] at default
    split at default
    · rw [List.mem_singleton.mp default]
      refine ⟨⟨bebop, rfl⟩, fun d member => ?_⟩
      rw [List.mem_singleton.mp member]
      exact ⟨⟨by decide, by decide⟩, by decide, by decide⟩
    · cases default
  obtain ⟨pairs, rendered, typed, keys, values⟩ := rendered_cell Dict.inserted
    fun e member => renders_of_sound documented (merged e member).1 (merged e member).2
  have once : (pairs.map Prod.fst).Nodup := by
    apply List.Nodup.of_map address?
    rw [List.map_map]
    show (pairs.map fun o => address? o.1).Nodup
    rw [keys]
    show ((lib.merge snapshot options).entries.map (address? ∘ Prod.fst)).Nodup
    rw [← List.map_map]
    refine List.Nodup.map_on ?_ (lib.merge snapshot options).nodup
    intro k hk k' hk' same
    obtain ⟨e, member, rfl⟩ := List.mem_map.mp hk
    obtain ⟨e', member', rfl⟩ := List.mem_map.mp hk'
    obtain ⟨a, ha⟩ := (merged e member).1
    obtain ⟨a', ha'⟩ := (merged e' member').1
    rw [ha, ha', address?_addressText, address?_addressText] at same
    rw [ha, ha', Option.some.inj same]
  refine ⟨pairs, ?_, typed, values⟩
  have out : (lib.merge snapshot options).entries.mapM lib.render = some pairs := rendered
  rw [toStateOverride, out, Option.map_some, Dict.entries_insertAll once]

end Library


namespace Library

variable (lib : Library)

section Extra

variable {l r : List Json} {x : Json} {q : String} {contracts : ContractDiffs}

/-- Without the extra entry the snapshot differs under its quote address only. -/
theorem snapshot_others (parsed : lib.parseVenue x = some (q, contracts)) :
    let snapshot := lib.parseVenues (l ++ x :: r)
    let snapshot' := lib.parseVenues (l ++ r)
    (snapshot.perPamm.entries.filter fun e => e.1 ≠ q) =
        (snapshot'.perPamm.entries.filter fun e => e.1 ≠ q) ∧
      ∀ k, k ≠ q → snapshot.pricedAddresses.get? k = snapshot'.pricedAddresses.get? k := by
  dsimp only
  rw [(lib.perPamm_parseVenues (l ++ x :: r)).1, (lib.perPamm_parseVenues (l ++ r)).1,
    (lib.perPamm_parseVenues (l ++ x :: r)).2, (lib.perPamm_parseVenues (l ++ r)).2]
  exact ⟨congrArg Dict.entries (Dict.restrict_others parsed l r .empty),
    fun k other => Dict.get?_others_map parsed lib.parsePriced l r .empty other⟩

theorem mem_perPamm {venues : List Json} {e : String × ContractDiffs}
    (member : e ∈ (lib.parseVenues venues).perPamm.entries) :
    ∃ venue ∈ venues, lib.parseVenue venue = some e := by
  rw [(lib.perPamm_parseVenues venues).1] at member
  exact Dict.mem_of_mem_insertAll_filterMap member

theorem selects_others {snapshot snapshot' : OverridesSnapshot} {k : String}
    (priced : snapshot.pricedAddresses.get? k = snapshot'.pricedAddresses.get? k)
    (options : Options) :
    lib.selects snapshot options k = lib.selects snapshot' options k := by
  unfold selects entrySelected
  rw [priced]

/-- The slot is not named by the extra entry or another of its quote address. -/
def Spares (venues : List Json) (x : Json) (contract : Address) (slot : Word) : Prop :=
  Spared lib.parseVenue (fun contracts => Names slotIs contracts contract slot)
    (fun q => q = bebopLower ∧ contract = bebop ∧ slot = defaultSlot) venues x

theorem writesAt_default {snapshot : OverridesSnapshot} {options : Options} {contract : Address}
    {slot : Word} (other : ¬ (contract = bebop ∧ slot = defaultSlot)) :
    Dict.writesAt (addressText contract) (slotIs slot) (lib.defaultBlock snapshot options) =
      [] := by
  unfold defaultBlock
  split
  · by_cases here : bebopLower = addressText contract
    · have key : slotIs slot bebopDefaultSlot = false := by
        refine Bool.eq_false_iff.mpr fun named => other ⟨(addressText_injective here).symm, ?_⟩
        have same : (defaultSlot.toNat : Int) = slot.toNat := of_decide_eq_true named
        exact (BitVec.eq_of_toNat_eq (by exact_mod_cast same)).symm
      simp [Dict.writesAt, key]
    · simp [Dict.writesAt, here]
  · rfl

/-- Off the extra entry's quote address the merged diffs are the same without it. -/
theorem merge_alike (parsed : lib.parseVenue x = some (q, contracts)) (options : Options)
    {contract : Address} {slot : Word} (spares : lib.Spares (l ++ x :: r) x contract slot) :
    ((lib.merge (lib.parseVenues (l ++ x :: r)) options).cell (addressText contract)).restrict
        (slotIs slot) =
      ((lib.merge (lib.parseVenues (l ++ r)) options).cell (addressText contract)).restrict
        (slotIs slot) := by
  obtain ⟨silent, default⟩ := spares q contracts parsed
  obtain ⟨others, priced⟩ := lib.snapshot_others (l := l) (r := r) parsed
  have kept : ((lib.kept (lib.parseVenues (l ++ x :: r)) options).filter fun e => e.1 ≠ q) =
      (lib.kept (lib.parseVenues (l ++ r)) options).filter fun e => e.1 ≠ q :=
    filter_others others fun k other => lib.selects_others (priced k other) options
  have alike : Dict.writesAt (addressText contract) (slotIs slot)
        (lib.defaultBlock (lib.parseVenues (l ++ x :: r)) options) =
      Dict.writesAt (addressText contract) (slotIs slot)
        (lib.defaultBlock (lib.parseVenues (l ++ r)) options) := by
    by_cases bebopEntry : bebopLower = q
    · have other : ¬ (contract = bebop ∧ slot = defaultSlot) := fun here =>
        default ⟨bebopEntry.symm, here⟩
      rw [lib.writesAt_default other, lib.writesAt_default other]
    · unfold defaultBlock injects
      rw [any_others bebopEntry, kept, ← any_others bebopEntry]
  rw [merge_eq, merge_eq]
  refine merged_alike Dict.stable_inserted kept ?_ ?_ alike
  · intro e member here
    obtain ⟨venue, listed, read⟩ := lib.mem_perPamm (List.mem_of_mem_filter member)
    exact silent venue listed e.2 (by rw [read, ← here])
  · intro e member here
    obtain ⟨venue, listed, read⟩ := lib.mem_perPamm (List.mem_of_mem_filter member)
    have among := ((List.sublist_cons_self x r).append_left l).subset listed
    exact silent venue among e.2 (by rw [read, ← here])

end Extra

/-- Among well-formed entries one more that is sound raises nothing, and what it and its
quote address do not name is overridden as without it. -/
theorem extra_entry_isolated {lib : Library} (documented : lib.Documented)
    {l r : List Json} {x : Json} (wellFormed : ∀ venue ∈ l ++ r, WellFormed venue)
    (sound : ∀ q contracts, lib.parseVenue x = some (q, contracts) → SoundDiffs contracts)
    (fields : List (String × Json)) (options : Options) :
    ∃ override override', lib.overrides (payload fields (l ++ x :: r)) options = some override ∧
      lib.overrides (payload fields (l ++ r)) options = some override' ∧
      Typed override ∧ ∀ contract slot, lib.Spares (l ++ x :: r) x contract slot →
        valuesAt override contract slot = valuesAt override' contract slot := by
  have each : ∀ venue ∈ l ++ x :: r, ∀ e, lib.parseVenue venue = some e → SoundDiffs e.2 := by
    intro venue member e read
    rcases List.mem_append.mp member with before | after
    · exact lib.venue_sound (wellFormed venue (List.mem_append_left _ before)) read
    · rcases List.mem_cons.mp after with rfl | after
      · exact sound e.1 e.2 read
      · exact lib.venue_sound (wellFormed venue (List.mem_append_right _ after)) read
  have soundWith : ∀ e ∈ (lib.parseVenues (l ++ x :: r)).perPamm.entries, SoundDiffs e.2 := by
    intro e member
    obtain ⟨venue, listed, read⟩ := lib.mem_perPamm member
    exact each venue listed e read
  have soundWithout : ∀ e ∈ (lib.parseVenues (l ++ r)).perPamm.entries, SoundDiffs e.2 := by
    intro e member
    obtain ⟨venue, listed, read⟩ := lib.mem_perPamm member
    exact lib.venue_sound (wellFormed venue listed) read
  obtain ⟨override, out, typed, values⟩ := toStateOverride_sound documented soundWith options
  obtain ⟨override', out', _, values'⟩ := toStateOverride_sound documented soundWithout options
  refine ⟨override, override', out, out', typed, fun contract slot spares => ?_⟩
  cases parsed : lib.parseVenue x with
  | none =>
      have same : lib.parseVenues (l ++ x :: r) = lib.parseVenues (l ++ r) := by
        simp only [parseVenues, List.foldl_append, List.foldl_cons, addVenue, parsed]
      rw [same, out'] at out
      rw [Option.some.inj out]
  | some e => rw [values, values', lib.merge_alike parsed options spares]

end Library

end PropAMM.Python.Overrides
