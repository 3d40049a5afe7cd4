import PropAMM.Sdk.OverridePayload
import PropAMM.Sdk.Pamms

/-! # The TypeScript SDK's state overrides

The parser of an overrides payload and the merge into one `eth_call` override. Keys and
words stay texts: nothing checks an address, a word is padded by the merge, which throws
on one that is too long, and a context field that is no integer throws in the parser.
-/

namespace PropAMM.TypeScript.Overrides

open Text PropAMM.Overrides

/-- Lower case outside ASCII, and viem's padding. -/
structure Library where
  /-- `toLowerCase` of a text that is not ASCII -/
  toLowerCase : String → String
  /-- `padHex(text, { size: 32 })`; `none` where it throws. -/
  padHex : String → Option String

/-- Zeros on the left make a word of a shorter one. -/
def Library.Documented (lib : Library) : Prop :=
  ∀ s w, shortWord? s = some w → ∃ t, lib.padHex s = some t ∧ word? t = some w

/-! ## Plain objects -/

/-- `object[key] = value`, where `__proto__` names no property of the object's own. -/
def put {ν : Type} (object : Dict String ν) (key : String) (value : ν) : Dict String ν :=
  if key = "__proto__" then object else object.insert key value

def putAll {ν : Type} (object : Dict String ν) (l : List (String × ν)) : Dict String ν :=
  l.foldl (fun object e => put object e.1 e.2) object

/-- The index that a key spells, of those an array can have. -/
def arrayIndex? (key : String) : Option Nat :=
  (digitsFrom 10 0 key.toList).filter fun n => toString n = key ∧ n < 2 ^ 32 - 1

def indexOf (key : String) : Nat := (arrayIndex? key).getD 0

/-- `Object.entries`: indices first and ascending, then the other keys as inserted. -/
def ownEntries {ν : Type} (object : Dict String ν) : List (String × ν) :=
  ((object.entries.filter fun e => (arrayIndex? e.1).isSome).mergeSort
      fun a b => indexOf a.1 ≤ indexOf b.1) ++
    object.entries.filter fun e => !(arrayIndex? e.1).isSome

/-- `Object.entries` of a decoded value, where `typeof` is `"object"` and it is not null. -/
def objectEntries : Json → Option (List (String × Json))
  | .obj fields => some fields
  | .arr items => some (items.zipIdx.map fun e => (toString e.2, e.1))
  | _ => none

/-- `record[key] ?? record[other]` -/
def nullish (record : Json) (key other : String) : Option Json :=
  match record.get? key with
  | none | some .null => record.get? other
  | some value => some value

/-! ## `BigInt` -/

def isWhiteSpace (c : Char) : Bool :=
  c.isWhitespace || [0x0b, 0x0c, 0xa0, 0x1680, 0x2028, 0x2029, 0x202f, 0x205f, 0x3000,
    0xfeff].contains c.toNat
    || (0x2000 ≤ c.toNat && c.toNat ≤ 0x200a)

def digits (radix : Nat) (text : List Char) : Option Nat :=
  if text.isEmpty then none else digitsFrom radix 0 text

/-- `BigInt` of a string; `none` where it throws. -/
def bigIntOfString (s : String) : Option Int :=
  match ((s.toList.dropWhile isWhiteSpace).reverse.dropWhile isWhiteSpace).reverse with
  | [] => some 0
  | '0' :: 'x' :: text | '0' :: 'X' :: text => (digits 16 text).map Int.ofNat
  | '0' :: 'o' :: text | '0' :: 'O' :: text => (digits 8 text).map Int.ofNat
  | '0' :: 'b' :: text | '0' :: 'B' :: text => (digits 2 text).map Int.ofNat
  | '-' :: text => (digits 10 text).map fun n => -(n : Int)
  | '+' :: text => (digits 10 text).map Int.ofNat
  | text => (digits 10 text).map Int.ofNat

/-- `BigInt` of a number; `none` where it throws. -/
def bigIntOfNumber : Json → Option Int
  | .int n => some n
  | .float whole => whole
  | _ => none

def isNumber : Json → Bool
  | .int _ | .float _ | .infinite => true
  | _ => false

/-! ## Parsing -/

/-- By slot, both as the payload spells them but for the slot's letter case. -/
abbrev SlotDiffs := Dict String String
abbrev ContractDiffs := Dict String SlotDiffs

structure OverridesSnapshot where
  blockNumber : Option Int
  slot : Option Int
  timestampNs : Option Int
  /-- By pAMM quote address, lower case. -/
  perPamm : Dict String ContractDiffs
  /-- The addresses priced from a quote address, lower case. -/
  pricedAddresses : Dict String (List String)

def OverridesSnapshot.default : OverridesSnapshot := ⟨none, none, none, .empty, .empty⟩

def maxOf (current next : Option Int) : Option Int :=
  match next with
  | none => current
  | some next =>
      match current with
      | none => some next
      | some current => if next > current then some next else some current

/-- `none` where it throws; the inner `none` is `undefined`. -/
def parseBlockNumber : Option Json → Option (Option Int)
  | some .infinite => some none
  | some (.int n) => some (some n)
  | some (.float whole) => whole.map some
  | some (.str s) => if s = "" then some none else (bigIntOfString s).map some
  | _ => some none

/-- The v2 field; an infinite number throws here. -/
def parseTimestamp : Option Json → Option (Option Int)
  | some value => if isNumber value then (bigIntOfNumber value).map some else some none
  | none => some none

namespace Library

variable (lib : Library)

def lower (s : String) : String := if isAscii s then lowerAscii s else lib.toLowerCase s

/-- One `slot → value` pair of a `stateDiff`; `none` where the loop continues. -/
def parseSlot (field : String × Json) : Option (String × String) :=
  field.2.asStr?.map fun value => (lib.lower field.1, value)

/-- One `contract → spec` pair of a `stateOverride`. -/
def parseContract (field : String × Json) : Option (String × SlotDiffs) :=
  ((field.2.get? "stateDiff").bind objectEntries).bind fun stateDiff =>
    let slots : SlotDiffs := putAll .empty (stateDiff.filterMap lib.parseSlot)
    if slots.entries.isEmpty then none else some (lib.lower field.1, slots)

def parseContractDiffs (payload : Json) : Option ContractDiffs :=
  ((nullish payload "stateOverride" "state_override").bind objectEntries).bind fun overrideMap =>
    let contracts : ContractDiffs := putAll .empty (overrideMap.filterMap lib.parseContract)
    if contracts.entries.isEmpty then none else some contracts

/-- What an entry of the `venues` list is kept as; `none` where the loop continues. -/
def parseVenue (venue : Json) : Option (String × ContractDiffs) :=
  match (venue.get? "quoteAddress").bind Json.asStr?, lib.parseContractDiffs venue with
  | some quoteAddress, some contracts => some (lib.lower quoteAddress, contracts)
  | _, _ => none

def parsePriced (venue : Json) : List String :=
  (((venue.get? "pricedAddresses").bind Json.asArray?).getD []).filterMap fun a =>
    a.asStr?.map lib.lower

/-- `none` where it throws. -/
def addVenue (snapshot : OverridesSnapshot) (venue : Json) : Option OverridesSnapshot :=
  match lib.parseVenue venue with
  | none => some snapshot
  | some (key, contracts) => do
      let blockNumber ← parseBlockNumber (venue.get? "blockNumber")
      let slot ← parseBlockNumber (venue.get? "slot")
      let timestampNs ← parseTimestamp (venue.get? "timestamp")
      some {
        perPamm := put snapshot.perPamm key contracts
        pricedAddresses := put snapshot.pricedAddresses key (lib.parsePriced venue)
        blockNumber := maxOf snapshot.blockNumber blockNumber
        slot := maxOf snapshot.slot slot
        timestampNs := maxOf snapshot.timestampNs timestampNs }

def parseVenues (venues : List Json) : Option OverridesSnapshot :=
  venues.foldlM lib.addVenue .default

def metaKeys : List String := ["slot", "blockNumber", "block_number", "timestamp"]

/-- One top-level pair of the v1 shape. -/
def parseEntry (field : String × Json) : Option (String × ContractDiffs) :=
  if field.1 ∈ metaKeys ∨ ¬ startsWith0x field.1 then none
  else (lib.parseContractDiffs field.2).map fun contracts => (lib.lower field.1, contracts)

/-- `none` where it throws. -/
def parseOverridesMessage (raw : Json) : Option OverridesSnapshot :=
  raw.asObject?.bind fun object =>
    match (raw.get? "venues").bind Json.asArray? with
    | some venues => lib.parseVenues venues
    | none => do
        let blockNumber ← parseBlockNumber (nullish raw "blockNumber" "block_number")
        let slot ← parseBlockNumber (raw.get? "slot")
        let timestampNs ← parseTimestamp (raw.get? "timestamp")
        some {
          blockNumber, slot, timestampNs
          perPamm := putAll .empty (object.filterMap lib.parseEntry)
          pricedAddresses := .empty }

end Library

/-! ## The merge -/

def bebopLower : String := addressText bebop

def bebopDefaultSlot : String :=
  "0x3ca381a3d43d4e593578057c4abe441ad9df02f080defd17d2b6e6190cdcd936"

def zeroWord : String := String.ofList ('0' :: 'x' :: List.replicate 64 '0')

/-- `QUOTE_ADDRESS_VENUES`, the venues lowered. -/
def venueOf (quoteAddress : String) : Option String :=
  (quoteAddressVenues.find? fun e => addressText e.1 = quoteAddress).map fun e => addressText e.2

/-- `none` where it throws: the one inherited property that a lower-case key can name is
    no address. -/
def entrySelected (snapshot : OverridesSnapshot) (quoteAddress : String) (selected : List String) :
    Option Bool :=
  if selected.contains quoteAddress then some true
  else if quoteAddress = "constructor" then none
  else some ((venueOf quoteAddress).any selected.contains
    || ((snapshot.pricedAddresses.get? quoteAddress).getD []).any selected.contains)

structure Options where
  pamms : Option (List String)
  bebopDefault : Bool

/-- The variables of the loop over the entries. -/
structure Merging where
  merged : Dict String SlotDiffs
  bebopPresent : Bool

namespace Library

variable (lib : Library)

def selects (snapshot : OverridesSnapshot) (options : Options) (quoteAddress : String) :
    Option Bool :=
  match options.pamms with
  | none => some true
  | some pamms => entrySelected snapshot quoteAddress (pamms.map lib.lower)

/-- One entry of the loop; `none` where it throws. -/
def visit (snapshot : OverridesSnapshot) (options : Options) (m : Merging)
    (entry : String × ContractDiffs) : Option Merging :=
  (lib.selects snapshot options entry.1).map fun selected =>
    if selected then {
      bebopPresent := m.bebopPresent || entry.1 = bebopLower
      merged :=
        (ownEntries entry.2).foldl (fun merged c => merged.extendAt c.1 (ownEntries c.2)) m.merged }
    else m

/-- The merged diffs, Bebop's price slot zeroed where no entry of its own is there. -/
def merge (snapshot : OverridesSnapshot) (options : Options) : Option (Dict String SlotDiffs) :=
  ((ownEntries snapshot.perPamm).foldlM (lib.visit snapshot options) ⟨.empty, false⟩).map fun m =>
    if options.bebopDefault && !m.bebopPresent then
      m.merged.extendAt bebopLower [(bebopDefaultSlot, zeroWord)]
    else m.merged

def pad (d : String × String) : Option (String × String) :=
  (lib.padHex d.1).bind fun slot => (lib.padHex d.2).map fun value => (slot, value)

/-- One contract of the result; `none` where the padding throws. -/
def render (e : String × SlotDiffs) : Option (String × List (String × String)) :=
  ((ownEntries e.2).mapM lib.pad).map fun stateDiff => (e.1, stateDiff)

/-- `none` where it throws. -/
def toStateOverride (snapshot : OverridesSnapshot) (options : Options) : Option StateOverride :=
  (lib.merge snapshot options).bind fun merged => (ownEntries merged).mapM lib.render

/-- Parse, then flatten; `none` where either throws. -/
def overrides (raw : Json) (options : Options) : Option StateOverride :=
  (lib.parseOverridesMessage raw).bind fun snapshot => lib.toStateOverride snapshot options

end Library


/-! ## Plain objects as dictionaries -/

theorem key_of_arrayIndex? {k : String} {n : Nat} (h : arrayIndex? k = some n) :
    k = toString n := by
  obtain ⟨_, canonical⟩ := Option.filter_eq_some_iff.mp h
  exact (of_decide_eq_true canonical).1.symm

section OwnEntries

variable {ν : Type}

def byIndex (a b : String × ν) : Bool := indexOf a.1 ≤ indexOf b.1

theorem sorted_byIndex (l : List (String × ν)) :
    (l.mergeSort byIndex).Pairwise fun a b => byIndex a b := by
  apply List.pairwise_mergeSort
  · intro a b c ab bc
    exact decide_eq_true (Nat.le_trans (of_decide_eq_true ab) (of_decide_eq_true bc))
  · intro a b
    rcases Nat.le_total (indexOf a.1) (indexOf b.1) with le | le
    · simp [byIndex, le]
    · simp [byIndex, le]

/-- An index is spelled in one way, so the order of index keys is strict. -/
theorem eq_of_byIndex {l : List (String × ν)} (once : (l.map Prod.fst).Nodup)
    (indices : ∀ e ∈ l, (arrayIndex? e.1).isSome) {a b : String × ν} (ha : a ∈ l) (hb : b ∈ l)
    (ab : byIndex a b = true) (ba : byIndex b a = true) : a = b := by
  obtain ⟨n, an⟩ := Option.isSome_iff_exists.mp (indices a ha)
  obtain ⟨m, bm⟩ := Option.isSome_iff_exists.mp (indices b hb)
  have same : n = m := by
    have le := of_decide_eq_true ab
    have ge := of_decide_eq_true ba
    rw [indexOf, indexOf, an, bm, Option.getD_some, Option.getD_some] at le ge
    exact Nat.le_antisymm le ge
  have key : a.1 = b.1 := by
    rw [key_of_arrayIndex? an, key_of_arrayIndex? bm, same]
  exact List.inj_on_of_nodup_map once ha hb key

theorem filter_sorted (P : String → Bool) {l : List (String × ν)} (once : (l.map Prod.fst).Nodup)
    (indices : ∀ e ∈ l, (arrayIndex? e.1).isSome) :
    ((l.mergeSort byIndex).filter fun e => P e.1) = (l.filter fun e => P e.1).mergeSort
      byIndex := by
  have sorted := List.mergeSort_perm l byIndex
  refine @List.Perm.eq_of_pairwise _ (fun a b => byIndex a b = true) _ _ ?_
    ((sorted_byIndex l).filter _) (sorted_byIndex _) ?_
  · intro a b ha hb ab ba
    have la := sorted.mem_iff.mp (List.mem_of_mem_filter ha)
    have lb := List.mem_of_mem_filter ((List.mergeSort_perm _ byIndex).mem_iff.mp hb)
    exact eq_of_byIndex once indices la lb ab ba
  · exact (sorted.filter _).trans (List.mergeSort_perm _ byIndex).symm

theorem ownEntries_perm (object : Dict String ν) : (ownEntries object).Perm object.entries :=
  ((List.mergeSort_perm _ _).append_right _).trans (List.filter_append_perm ..)

/-- `Object.entries` as a visit. -/
def ownVisit : Dict.Visit String ν := fun object => ⟨ownEntries object, ownEntries_perm object⟩

theorem stable_ownVisit : Dict.Stable (ownVisit : Dict.Visit String ν) := by
  intro object P
  have once : ((object.entries.filter fun e => (arrayIndex? e.1).isSome).map Prod.fst).Nodup :=
    object.nodup.sublist (List.filter_sublist.map Prod.fst)
  have indices : ∀ e ∈ object.entries.filter fun e => (arrayIndex? e.1).isSome,
      (arrayIndex? e.1).isSome := fun e member => (List.mem_filter.mp member).2
  show ((_ ++ _ : List (String × ν)).filter fun e => P e.1) = _ ++ _
  rw [List.filter_append]
  congr 1
  · refine (filter_sorted P once indices).trans ?_
    show _ = ((object.entries.filter fun e => P e.1).filter fun e =>
      (arrayIndex? e.1).isSome).mergeSort _
    rw [List.filter_comm]
    rfl
  · exact List.filter_comm ..

theorem putAll_eq (object : Dict String ν) (l : List (String × ν)) :
    putAll object l = object.insertAll (l.filter fun e => e.1 ≠ "__proto__") := by
  induction l generalizing object with
  | nil => rfl
  | cons e l ih =>
      have step : putAll object (e :: l) = putAll (put object e.1 e.2) l := rfl
      by_cases proto : e.1 = "__proto__"
      · rw [step, ih, put, if_pos proto, List.filter_cons_of_neg (by simpa using proto)]
      · rw [step, ih, put, if_neg proto, List.filter_cons_of_pos (by simpa using proto)]
        rfl

theorem mem_putAll {l : List (String × ν)} {e : String × ν} (h : e ∈ (putAll .empty l).entries) :
    e ∈ l := by
  rw [putAll_eq] at h
  rcases Dict.mem_of_mem_insertAll h with none | listed
  · cases none
  · exact List.mem_of_mem_filter listed

end OwnEntries


/-! ## Well-formed entries -/

namespace Library

variable (lib : Library)

/-- The word that a text is padded to. -/
def padded? (text : String) : Option Word := (lib.padHex text).bind word?

/-- Contract keys are addresses, slots and values pad to words. -/
def SoundDiffs (contracts : ContractDiffs) : Prop :=
  ∀ c ∈ contracts.entries, (∃ a, c.1 = addressText a) ∧
    ∀ d ∈ c.2.entries, (lib.padded? d.1).isSome ∧ (lib.padded? d.2).isSome

/-- The context fields are read without an error. -/
def Converts (venue : Json) : Prop :=
  (parseBlockNumber (venue.get? "blockNumber")).isSome ∧
    (parseBlockNumber (venue.get? "slot")).isSome ∧ (parseTimestamp (venue.get? "timestamp")).isSome

/-- A kept entry whose numbers convert, whose quote address is no inherited property, and
    whose diffs are sound. -/
def SoundEntry (venue : Json) : Prop :=
  ∀ q contracts, lib.parseVenue venue = some (q, contracts) →
    Converts venue ∧ q ≠ "constructor" ∧ lib.SoundDiffs contracts

theorem lower_address {s : String} {a : Address} (h : address? s = some a) :
    lib.lower s = addressText a := by
  obtain ⟨ascii, lowered⟩ := Text.lower_address h
  rw [lower, if_pos ascii, lowered]

variable {lib} in
theorem Documented.padded?_short (documented : lib.Documented) {s : String} {w : Word}
    (h : shortWord? s = some w) : lib.padded? s = some w := by
  obtain ⟨t, pads, word⟩ := documented s w h
  rw [padded?, pads, Option.bind_some, word]

theorem shortWord?_lower {s : String} {w : Word} (h : shortWord? s = some w) :
    shortWord? (lib.lower s) = some w := by
  obtain ⟨ascii, lowered⟩ := lower_shortWord h
  rw [lower, if_pos ascii, lowered]

variable {lib} in
theorem slot_sound (documented : lib.Documented) {field : String × Json}
    (wellFormed : WellFormedDiff field) {d : String × String}
    (parsed : lib.parseSlot field = some d) :
    (lib.padded? d.1).isSome ∧ (lib.padded? d.2).isSome := by
  obtain ⟨slot, value, text, short⟩ := wellFormed
  obtain ⟨s, hs⟩ := Option.isSome_iff_exists.mp slot
  obtain ⟨v, hv⟩ := Option.isSome_iff_exists.mp short
  rw [parseSlot, text] at parsed
  cases parsed
  rw [documented.padded?_short (lib.shortWord?_lower hs), documented.padded?_short hv]
  exact ⟨rfl, rfl⟩

variable {lib} in
theorem contract_sound (documented : lib.Documented) {field : String × Json}
    (wellFormed : WellFormedContract field) {c : String × SlotDiffs}
    (parsed : lib.parseContract field = some c) :
    (∃ a, c.1 = addressText a) ∧
      ∀ d ∈ c.2.entries, (lib.padded? d.1).isSome ∧ (lib.padded? d.2).isSome := by
  obtain ⟨address, stateDiff, spec, diffs⟩ := wellFormed
  obtain ⟨a, ha⟩ := Option.isSome_iff_exists.mp address
  rw [parseContract, spec] at parsed
  simp only [Option.bind_some, objectEntries] at parsed
  split at parsed
  · cases parsed
  · cases parsed
    refine ⟨⟨a, lib.lower_address ha⟩, fun d member => ?_⟩
    obtain ⟨diff, listed, read⟩ := List.mem_filterMap.mp (mem_putAll member)
    exact slot_sound documented (diffs diff listed) read

variable {lib} in
theorem diffs_sound (documented : lib.Documented) {venue : Json} (wellFormed : WellFormed venue)
    {contracts : ContractDiffs} (kept : lib.parseContractDiffs venue = some contracts) :
    lib.SoundDiffs contracts := by
  obtain ⟨fields, stateOverride, each⟩ := wellFormed.stateOverride
  have chosen : nullish venue "stateOverride" "state_override" = some (.obj fields) := by
    rw [nullish, stateOverride]
  unfold parseContractDiffs at kept
  rw [chosen] at kept
  simp only [Option.bind_some, objectEntries] at kept
  split at kept
  · cases kept
  · cases kept
    intro c member
    obtain ⟨field, listed, read⟩ := List.mem_filterMap.mp (mem_putAll member)
    exact contract_sound documented (each field listed) read

theorem converts_of_wellFormed {venue : Json} (wellFormed : WellFormed venue) : Converts venue := by
  have number : ∀ key ∈ ["slot", "blockNumber", "timestamp"],
      (parseBlockNumber (venue.get? key)).isSome ∧ (parseTimestamp (venue.get? key)).isSome := by
    intro key listed
    cases field : venue.get? key with
    | none => exact ⟨rfl, rfl⟩
    | some value =>
        obtain ⟨n, rfl⟩ := wellFormed.context key listed value field
        exact ⟨rfl, rfl⟩
  exact ⟨(number "blockNumber" (by simp)).1, (number "slot" (by simp)).1,
    (number "timestamp" (by simp)).2⟩

variable {lib} in
theorem sound_of_wellFormed (documented : lib.Documented) {venue : Json}
    (wellFormed : WellFormed venue) : lib.SoundEntry venue := by
  intro q contracts parsed
  obtain ⟨s, quoteAddress, address⟩ := wellFormed.quoteAddress
  obtain ⟨a, ha⟩ := Option.isSome_iff_exists.mp address
  unfold parseVenue at parsed
  split at parsed
  · rename_i s' contracts' read kept
    rw [quoteAddress] at read
    cases read
    cases parsed
    refine ⟨converts_of_wellFormed wellFormed, ?_, diffs_sound documented wellFormed kept⟩
    rw [lib.lower_address ha]
    intro same
    have none : address? "constructor" = none := by decide
    have read := congrArg address? same
    rw [address?_addressText, none] at read
    cases read
  · cases parsed

end Library


/-! ## What the parser keeps -/

namespace Library

variable (lib : Library)

/-- The entry's own property of the snapshot. -/
def keptVenue (venue : Json) : Option (String × ContractDiffs) :=
  (lib.parseVenue venue).filter fun e => e.1 ≠ "__proto__"

def keptPriced (venue : Json) : Option (String × List String) :=
  (lib.keptVenue venue).map fun e => (e.1, lib.parsePriced venue)

/-- Where the numbers convert, the parser keeps each entry under its quote address. -/
theorem parseVenues_eq {venues : List Json}
    (converts : ∀ venue ∈ venues, ∀ e, lib.parseVenue venue = some e → Converts venue) :
    ∃ snapshot, lib.parseVenues venues = some snapshot ∧
      snapshot.perPamm = Dict.empty.insertAll (venues.filterMap lib.keptVenue) ∧
      snapshot.pricedAddresses = Dict.empty.insertAll (venues.filterMap lib.keptPriced) := by
  induction venues using List.reverseRecOn with
  | nil => exact ⟨.default, rfl, rfl, rfl⟩
  | append_singleton venues venue ih =>
      obtain ⟨snapshot, before, perPamm, priced⟩ :=
        ih fun v member => converts v (List.mem_append_left _ member)
      have step : lib.parseVenues (venues ++ [venue]) = lib.addVenue snapshot venue := by
        rw [parseVenues, List.foldlM_append]
        show (lib.parseVenues venues).bind (fun s => [venue].foldlM lib.addVenue s) = _
        rw [before]
        simp
      rw [step, List.filterMap_append, List.filterMap_append, addVenue]
      cases parsed : lib.parseVenue venue with
      | none =>
          refine ⟨snapshot, rfl, ?_, ?_⟩
          · simp [keptVenue, parsed, perPamm]
          · simp [keptPriced, keptVenue, parsed, priced]
      | some e =>
          obtain ⟨blockNumber, slot, timestamp⟩ := converts venue (by simp) e parsed
          obtain ⟨blockNumber, hb⟩ := Option.isSome_iff_exists.mp blockNumber
          obtain ⟨slot, hs⟩ := Option.isSome_iff_exists.mp slot
          obtain ⟨timestamp, ht⟩ := Option.isSome_iff_exists.mp timestamp
          simp only [hb, hs, ht, Option.bind_eq_bind, Option.bind_some]
          refine ⟨_, rfl, ?_, ?_⟩
          · by_cases proto : e.1 = "__proto__"
            · simp [put, proto, keptVenue, parsed, perPamm, Option.filter_some]
            · simp [put, proto, keptVenue, parsed, perPamm, Option.filter_some, Dict.insertAll]
          · by_cases proto : e.1 = "__proto__"
            · simp [put, proto, keptPriced, keptVenue, parsed, priced, Option.filter_some]
            · simp [put, proto, keptPriced, keptVenue, parsed, priced, Option.filter_some,
                Dict.insertAll]

/-! ## What the merge emits -/

variable (snapshot : OverridesSnapshot) (options : Options)

def keeps (quoteAddress : String) : Bool := (lib.selects snapshot options quoteAddress).getD false

/-- The entries the merge does not skip. -/
def kept : List (String × ContractDiffs) :=
  (ownEntries snapshot.perPamm).filter fun e => lib.keeps snapshot options e.1

def injects : Bool :=
  options.bebopDefault && !(lib.kept snapshot options).any fun e => e.1 = bebopLower

/-- Bebop's price slot, where no entry of its own is kept. -/
def defaultBlock : List (String × List (String × String)) :=
  if lib.injects snapshot options then [(bebopLower, [(bebopDefaultSlot, zeroWord)])] else []

theorem foldlM_visit {entries : List (String × ContractDiffs)}
    (selects : ∀ e ∈ entries, (lib.selects snapshot options e.1).isSome) (m : Merging) :
    let kept := entries.filter fun e => lib.keeps snapshot options e.1
    entries.foldlM (lib.visit snapshot options) m =
      some ⟨(kept.flatMap (blocks ownVisit ownVisit)).foldl
        (fun d b => d.extendAt b.1 b.2) m.merged, m.bebopPresent || kept.any fun e =>
          e.1 = bebopLower⟩ := by
  induction entries generalizing m with
  | nil => simp
  | cons e entries ih =>
      have ih := ih fun f member => selects f (List.mem_cons_of_mem e member)
      obtain ⟨selected, here⟩ := Option.isSome_iff_exists.mp (selects e List.mem_cons_self)
      have keeps : lib.keeps snapshot options e.1 = selected := by
        rw [Library.keeps, here, Option.getD_some]
      rw [List.foldlM_cons, visit, here]
      cases selected with
      | true =>
          have filtered : (e :: entries).filter (fun e => lib.keeps snapshot options e.1) =
              e :: entries.filter fun e => lib.keeps snapshot options e.1 :=
            List.filter_cons_of_pos keeps
          simp only [Option.map_some, if_true, Option.bind_eq_bind, Option.bind_some, ih, filtered,
            List.flatMap_cons, List.foldl_append, List.any_cons, blocks, List.foldl_map,
            Bool.or_assoc]
          rfl
      | false =>
          have filtered : (e :: entries).filter (fun e => lib.keeps snapshot options e.1) =
              entries.filter fun e => lib.keeps snapshot options e.1 :=
            List.filter_cons_of_neg (by simp [keeps])
          simp only [Option.map_some, Bool.false_eq_true, if_false, Option.bind_eq_bind,
            Option.bind_some, ih, filtered]

theorem merge_eq
    (selects : ∀ e ∈ snapshot.perPamm.entries, (lib.selects snapshot options e.1).isSome) :
    lib.merge snapshot options =
      some (Dict.ofBlocks ((lib.kept snapshot options).flatMap (blocks ownVisit ownVisit) ++
        lib.defaultBlock snapshot options)) := by
  have selects : ∀ e ∈ ownEntries snapshot.perPamm, (lib.selects snapshot options e.1).isSome :=
    fun e member => selects e ((ownEntries_perm _).mem_iff.mp member)
  rw [merge, lib.foldlM_visit snapshot options selects, Option.map_some, Dict.ofBlocks,
    List.foldl_append, defaultBlock]
  refine congrArg some ?_
  show (if lib.injects snapshot options then _ else _) = _
  by_cases injected : lib.injects snapshot options = true
  · rw [if_pos injected, if_pos injected]
    rfl
  · rw [if_neg injected, if_neg injected]
    rfl

/-- The keys that are padded to a slot. -/
def slotIs (slot : Word) (key : String) : Bool := lib.padded? key = some slot

/-- A value as it is emitted. -/
def padded (value : String) : String := (lib.padHex value).getD ""

theorem pad_of_padded {d : String × String} {s v : Word} (slot : lib.padded? d.1 = some s)
    (value : lib.padded? d.2 = some v) :
    lib.pad d = some (lib.padded d.1, lib.padded d.2) ∧ word? (lib.padded d.1) = some s ∧
      word? (lib.padded d.2) = some v := by
  obtain ⟨t, pads, word⟩ := Option.bind_eq_some_iff.mp slot
  obtain ⟨t', pads', word'⟩ := Option.bind_eq_some_iff.mp value
  simp only [pad, padded, pads, pads', Option.bind_some, Option.map_some, Option.getD_some]
  exact ⟨trivial, word, word'⟩

theorem renders_of_sound {e : String × SlotDiffs} (key : ∃ a, e.1 = addressText a)
    (words : ∀ d ∈ e.2.entries, (lib.padded? d.1).isSome ∧ (lib.padded? d.2).isSome) :
    Renders lib.render ownVisit lib.slotIs lib.padded e := by
  obtain ⟨a, key⟩ := key
  have pads : ∀ d ∈ ownEntries e.2, ∃ s v, lib.padded? d.1 = some s ∧ lib.padded? d.2 = some v := by
    intro d member
    obtain ⟨slot, value⟩ := words d ((ownEntries_perm e.2).mem_iff.mp member)
    obtain ⟨s, hs⟩ := Option.isSome_iff_exists.mp slot
    obtain ⟨v, hv⟩ := Option.isSome_iff_exists.mp value
    exact ⟨s, v, hs, hv⟩
  have all : ∀ l : List (String × String),
      (∀ d ∈ l, ∃ s v, lib.padded? d.1 = some s ∧ lib.padded? d.2 = some v) →
      l.mapM lib.pad = some (l.map fun d => (lib.padded d.1, lib.padded d.2)) := by
    intro l good
    induction l with
    | nil => rfl
    | cons d l ih =>
        obtain ⟨s, v, slot, value⟩ := good d List.mem_cons_self
        rw [List.mapM_cons, (lib.pad_of_padded slot value).1,
          ih fun d' member => good d' (List.mem_cons_of_mem d member)]
        rfl
  refine ⟨a, (e.1, (ownEntries e.2).map fun d => (lib.padded d.1, lib.padded d.2)), key,
    ?_, ?_, ?_, ?_⟩
  · rw [render, all _ pads, Option.map_some]
  · rw [key, address?_addressText]
  · intro d member
    obtain ⟨d, listed, rfl⟩ := List.mem_map.mp member
    obtain ⟨s, v, slot, value⟩ := pads d listed
    obtain ⟨_, word, word'⟩ := lib.pad_of_padded slot value
    exact ⟨by rw [word]; rfl, by rw [word']; rfl⟩
  · intro s
    have keys : ((ownEntries e.2).filter fun d => word? (lib.padded d.1) = some s) =
        (ownEntries e.2).filter fun d => lib.slotIs s d.1 := by
      refine List.filter_congr fun d listed => ?_
      obtain ⟨s', v, slot, value⟩ := pads d listed
      rw [(lib.pad_of_padded slot value).2.1, slotIs, slot]
    have stable : ((ownEntries e.2).filter fun d => lib.slotIs s d.1) =
        (ownVisit (e.2.restrict (lib.slotIs s))).1 := stable_ownVisit e.2 (lib.slotIs s)
    rw [← stable, ← keys, List.filter_map, List.map_map]
    rfl

end Library


/-! ## One entry among others -/

namespace Library

variable (lib : Library)

def merged (snapshot : OverridesSnapshot) (options : Options) : Dict String SlotDiffs :=
  Dict.ofBlocks ((lib.kept snapshot options).flatMap (blocks ownVisit ownVisit) ++
    lib.defaultBlock snapshot options)

theorem selects_isSome {snapshot : OverridesSnapshot} {options : Options} {k : String}
    (own : k ≠ "constructor") : (lib.selects snapshot options k).isSome := by
  unfold selects
  split
  · rfl
  · rw [entrySelected, if_neg own]
    split
    · rfl
    · rfl

theorem default_words {lib : Library} (documented : lib.Documented) :
    lib.padded? bebopDefaultSlot = some defaultSlot ∧ (lib.padded? zeroWord).isSome := by
  have slot : shortWord? bebopDefaultSlot = some defaultSlot := by decide
  have zero : shortWord? zeroWord = some 0 := by decide
  rw [documented.padded?_short slot, documented.padded?_short zero]
  exact ⟨rfl, rfl⟩

/-- A snapshot of sound entries is flattened without an error. -/
theorem toStateOverride_sound {lib : Library} (documented : lib.Documented)
    {snapshot : OverridesSnapshot}
    (sound : ∀ e ∈ snapshot.perPamm.entries, e.1 ≠ "constructor" ∧ lib.SoundDiffs e.2)
    (options : Options) :
    ∃ override, lib.toStateOverride snapshot options = some override ∧ Typed override ∧
      ∀ a s, valuesAt override a s =
        (ownVisit (((lib.merged snapshot options).cell (addressText a)).restrict
          (lib.slotIs s))).1.map fun d => lib.padded d.2 := by
  obtain ⟨defaultPads, zeroPads⟩ := default_words documented
  have each : ∀ e ∈ (lib.merged snapshot options).entries, (∃ a, e.1 = addressText a) ∧
      ∀ d ∈ e.2.entries, (lib.padded? d.1).isSome ∧ (lib.padded? d.2).isSome := by
    refine forall_merged (K := fun key => ∃ a, key = addressText a)
      (W := fun d => (lib.padded? d.1).isSome ∧ (lib.padded? d.2).isSome) ?_ ?_
    · intro e kept
      exact (sound e ((ownEntries_perm _).mem_iff.mp (List.mem_of_mem_filter kept))).2
    · intro b default
      rw [defaultBlock] at default
      split at default
      · rw [List.mem_singleton.mp default]
        refine ⟨⟨bebop, rfl⟩, fun d member => ?_⟩
        rw [List.mem_singleton.mp member, defaultPads]
        exact ⟨rfl, zeroPads⟩
      · cases default
  obtain ⟨override, rendered, typed, _, values⟩ := rendered_cell ownVisit
    fun e member => lib.renders_of_sound (each e member).1 (each e member).2
  refine ⟨override, ?_, typed, values⟩
  rw [toStateOverride,
    lib.merge_eq snapshot options fun e member => lib.selects_isSome (sound e member).1]
  exact rendered

/-- The slot is not named by the extra entry or another of its quote address. -/
def Spares (venues : List Json) (x : Json) (contract : Address) (slot : Word) : Prop :=
  Spared lib.parseVenue (fun contracts => Names lib.slotIs contracts contract slot)
    (fun q => q = bebopLower ∧ contract = bebop ∧ slot = defaultSlot) venues x

theorem keptVenue_eq_some {venue : Json} {e : String × ContractDiffs}
    (kept : lib.keptVenue venue = some e) : lib.parseVenue venue = some e :=
  (Option.filter_eq_some_iff.mp kept).1

/-- A parsed list of venues. -/
structure Parsed (venues : List Json) (snapshot : OverridesSnapshot) : Prop where
  perPamm : snapshot.perPamm = Dict.empty.insertAll (venues.filterMap lib.keptVenue)
  priced : snapshot.pricedAddresses = Dict.empty.insertAll (venues.filterMap lib.keptPriced)

theorem Parsed.venue {venues : List Json} {snapshot : OverridesSnapshot}
    (parsed : lib.Parsed venues snapshot) {e : String × ContractDiffs}
    (member : e ∈ snapshot.perPamm.entries) : ∃ venue ∈ venues, lib.parseVenue venue = some e := by
  rw [parsed.perPamm] at member
  obtain ⟨venue, listed, kept⟩ := Dict.mem_of_mem_insertAll_filterMap member
  exact ⟨venue, listed, lib.keptVenue_eq_some kept⟩

theorem writesAt_default {lib : Library} (documented : lib.Documented)
    {snapshot : OverridesSnapshot} {options : Options} {contract : Address} {slot : Word}
    (other : ¬ (contract = bebop ∧ slot = defaultSlot)) :
    Dict.writesAt (addressText contract) (lib.slotIs slot) (lib.defaultBlock snapshot options) =
      [] := by
  unfold defaultBlock
  split
  · by_cases here : bebopLower = addressText contract
    · have key : lib.slotIs slot bebopDefaultSlot = false := by
        refine Bool.eq_false_iff.mpr fun named => other ⟨(addressText_injective here).symm, ?_⟩
        have same := of_decide_eq_true named
        rw [(default_words documented).1] at same
        exact (Option.some.inj same).symm
      simp [Dict.writesAt, key]
    · simp [Dict.writesAt, here]
  · rfl

section Extra

variable {lib : Library} {l r : List Json} {x : Json} {snapshot snapshot' : OverridesSnapshot}

/-- A value that is not kept leaves the snapshot's entries as they are. -/
theorem Parsed.merged_dropped (parsed : lib.Parsed (l ++ x :: r) snapshot)
    (parsed' : lib.Parsed (l ++ r) snapshot') (dropped : lib.keptVenue x = none)
    (options : Options) :
    lib.merged snapshot options = lib.merged snapshot' options := by
  have perPamm : snapshot.perPamm = snapshot'.perPamm := by
    rw [parsed.perPamm, parsed'.perPamm]
    simp [dropped]
  have priced : snapshot.pricedAddresses = snapshot'.pricedAddresses := by
    rw [parsed.priced, parsed'.priced]
    simp [keptPriced, dropped]
  cases snapshot
  cases snapshot'
  cases perPamm
  cases priced
  rfl

/-- Without the extra entry the merge keeps the same entries of other quote addresses. -/
theorem Parsed.kept_others (parsed : lib.Parsed (l ++ x :: r) snapshot)
    (parsed' : lib.Parsed (l ++ r) snapshot') {e : String × ContractDiffs}
    (keptX : lib.keptVenue x = some e) (options : Options) :
    ((lib.kept snapshot options).filter fun f => f.1 ≠ e.1) =
      (lib.kept snapshot' options).filter fun f => f.1 ≠ e.1 := by
  have others : ((ownEntries snapshot.perPamm).filter fun f => f.1 ≠ e.1) =
      (ownEntries snapshot'.perPamm).filter fun f => f.1 ≠ e.1 := by
    have stable := fun d : Dict String ContractDiffs => stable_ownVisit d fun k => decide (k ≠ e.1)
    refine (stable snapshot.perPamm).trans (Eq.trans ?_ (stable snapshot'.perPamm).symm)
    rw [parsed.perPamm, parsed'.perPamm, Dict.restrict_others keptX l r .empty]
  have selects : ∀ k, k ≠ e.1 → lib.keeps snapshot options k = lib.keeps snapshot' options k := by
    intro k other
    have priced : snapshot.pricedAddresses.get? k = snapshot'.pricedAddresses.get? k := by
      rw [parsed.priced, parsed'.priced]
      exact Dict.get?_others_map keptX lib.parsePriced l r .empty other
    unfold keeps Library.selects entrySelected
    rw [priced]
  exact filter_others others selects

/-- Off the extra entry's quote address the merged diffs are the same without it. -/
theorem merged_alike (documented : lib.Documented) (parsed : lib.Parsed (l ++ x :: r) snapshot)
    (parsed' : lib.Parsed (l ++ r) snapshot') (options : Options) {contract : Address} {slot : Word}
    (spares : lib.Spares (l ++ x :: r) x contract slot) :
    ((lib.merged snapshot options).cell (addressText contract)).restrict (lib.slotIs slot) =
      ((lib.merged snapshot' options).cell (addressText contract)).restrict (lib.slotIs slot) := by
  cases keptX : lib.keptVenue x with
  | none => rw [parsed.merged_dropped parsed' keptX]
  | some e =>
      obtain ⟨silent, default⟩ := spares e.1 e.2 (lib.keptVenue_eq_some keptX)
      have kept := parsed.kept_others parsed' keptX options
      have alike : Dict.writesAt (addressText contract) (lib.slotIs slot)
            (lib.defaultBlock snapshot options) =
          Dict.writesAt (addressText contract) (lib.slotIs slot)
            (lib.defaultBlock snapshot' options) := by
        by_cases bebopEntry : bebopLower = e.1
        · have other : ¬ (contract = bebop ∧ slot = defaultSlot) := fun here =>
            default ⟨bebopEntry.symm, here⟩
          rw [writesAt_default documented other, writesAt_default documented other]
        · unfold defaultBlock injects
          rw [any_others bebopEntry, kept, ← any_others bebopEntry]
      refine Overrides.merged_alike stable_ownVisit kept ?_ ?_ alike
      · intro f member here
        obtain ⟨venue, listed, read⟩ :=
          parsed.venue lib ((ownEntries_perm _).mem_iff.mp (List.mem_of_mem_filter member))
        exact silent venue listed f.2 (by rw [read, ← here])
      · intro f member here
        obtain ⟨venue, listed, read⟩ :=
          parsed'.venue lib ((ownEntries_perm _).mem_iff.mp (List.mem_of_mem_filter member))
        have among := ((List.sublist_cons_self x r).append_left l).subset listed
        exact silent venue among f.2 (by rw [read, ← here])

end Extra

/-- Among well-formed entries one more that is sound throws nothing, and what it and its
quote address do not name is overridden as without it. -/
theorem extra_entry_isolated {lib : Library} (documented : lib.Documented)
    {l r : List Json} {x : Json} (wellFormed : ∀ venue ∈ l ++ r, WellFormed venue)
    (sound : lib.SoundEntry x) (fields : List (String × Json)) (options : Options) :
    ∃ override override', lib.overrides (payload fields (l ++ x :: r)) options = some override ∧
      lib.overrides (payload fields (l ++ r)) options = some override' ∧
      Typed override ∧ ∀ contract slot, lib.Spares (l ++ x :: r) x contract slot →
        valuesAt override contract slot = valuesAt override' contract slot := by
  have each : ∀ venue ∈ l ++ x :: r, lib.SoundEntry venue := by
    intro venue member
    rcases List.mem_append.mp member with before | after
    · exact sound_of_wellFormed documented (wellFormed venue (List.mem_append_left _ before))
    · rcases List.mem_cons.mp after with rfl | after
      · exact sound
      · exact sound_of_wellFormed documented (wellFormed venue (List.mem_append_right _ after))
  have flattened : ∀ venues, (∀ venue ∈ venues, lib.SoundEntry venue) →
      ∃ snapshot override, lib.Parsed venues snapshot ∧
        lib.overrides (payload fields venues) options = some override ∧ Typed override ∧
        ∀ a s, valuesAt override a s =
          (ownVisit (((lib.merged snapshot options).cell (addressText a)).restrict
            (lib.slotIs s))).1.map fun d => lib.padded d.2 := by
    intro venues good
    obtain ⟨snapshot, read, perPamm, priced⟩ :=
      lib.parseVenues_eq fun venue member e parsed => (good venue member e.1 e.2 parsed).1
    have parsed : lib.Parsed venues snapshot := ⟨perPamm, priced⟩
    obtain ⟨override, out, typed, values⟩ := toStateOverride_sound documented (by
      intro e member
      obtain ⟨venue, listed, read⟩ := parsed.venue lib member
      exact (good venue listed e.1 e.2 read).2) options
    refine ⟨snapshot, override, parsed, ?_, typed, values⟩
    have message : lib.parseOverridesMessage (payload fields venues) = some snapshot := read
    rw [overrides, message, Option.bind_some, out]
  obtain ⟨snapshot, override, parsed, out, typed, values⟩ := flattened (l ++ x :: r) each
  obtain ⟨snapshot', override', parsed', out', _, values'⟩ := flattened (l ++ r) fun venue member =>
    sound_of_wellFormed documented (wellFormed venue member)
  refine ⟨override, override', out, out', typed, fun contract slot spares => ?_⟩
  rw [values, values', merged_alike documented parsed parsed' options spares]

end Library

end PropAMM.TypeScript.Overrides
