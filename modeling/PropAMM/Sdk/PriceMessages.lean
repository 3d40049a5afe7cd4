import PropAMM.Sdk.PriceAgreement
import PropAMM.Sdk.PriceBooks
import PropAMM.Sdk.PythonOverrides
import PropAMM.Sdk.TypeScriptOverrides

/-! # The three SDKs read a price message alike

A v2 payload names tokens and venues by texts in any letter case. Rust files its books by
address; Python and TypeScript file them by text, one checksummed and the other lowered, in
nested dictionaries. Up to that text the three snapshots are the same, in the same order.
-/

/-! ## Snapshots with texts for addresses -/

namespace PropAMM.Prices

structure PairPriceLevels where
  tokenIn : String
  tokenOut : String
  orderBook : List PriceLevel
  deriving DecidableEq

structure PammPriceLevels where
  pamm : String
  pairs : List PairPriceLevels
  deriving DecidableEq

structure PriceLevelsSnapshot where
  blockNumber : Option Int
  slot : Option Int
  timestampNs : Option Int
  pamms : List PammPriceLevels
  deriving DecidableEq

/-- A book with its texts brought to one form and both tokens' decimals known. -/
structure Book where
  pamm : String
  token1 : String
  token2 : String
  bids : List PriceLevel
  asks : List PriceLevel

/-- By pAMM, then by a key for the direction. -/
abbrev ByPamm (κ : Type) := Dict String (Dict κ PairPriceLevels)

section Files

variable {κ : Type} [DecidableEq κ] (pairKey : String → String → κ)

/-- One side, kept where it has rungs and its direction is not priced yet. -/
def addSide (pairs : Dict κ PairPriceLevels) (side : PairPriceLevels) : Dict κ PairPriceLevels :=
  let key := pairKey side.tokenIn side.tokenOut
  if side.orderBook ≠ [] then if pairs.get? key = none then pairs.insert key side
    else pairs else pairs

/-- Bids sell token1, asks sell token2. -/
def Book.sides (b : Book) : List PairPriceLevels :=
  [{ tokenIn := b.token1, tokenOut := b.token2, orderBook := b.bids },
    { tokenIn := b.token2, tokenOut := b.token1, orderBook := b.asks }]

def Book.addTo (b : Book) (byPamm : ByPamm κ) : ByPamm κ :=
  byPamm.insert b.pamm (b.sides.foldl (addSide pairKey) ((byPamm.get? b.pamm).getD .empty))

def listed (byPamm : ByPamm κ) : List PammPriceLevels :=
  byPamm.entries.map fun e => { pamm := e.1, pairs := e.2.entries.map Prod.snd }

end Files

/-- Whether a token's decimals are as `decimals()` returns them. -/
def isTokenDecimals (value : Int) : Bool := 0 ≤ value ∧ value ≤ 255

/-- The decimals of the tokens that Titan quotes. -/
def tokenDecimals : List (Address × UInt8) := [
  (0xC02aaA39b223FE8D0A0e5C4F27eAD9083C756Cc2, 18),
  (0xA0b86991c6218b36c1d19D4a2e9Eb0cE3606eB48, 6),
  (0xdAC17F958D2ee523a2206206994597C13D831ec7, 6),
  (0x2260fac5e5542a773aa44fbcfedf7c193bc2c599, 8),
  (0xcbb7c0000ab88b473b1f5afd9ef808440eed33bf, 8),
  (0x7fc66500c84a76ad7e9c93437bfc5ac33e2ddae9, 18),
  (0x514910771af9ca656af840dff83e8264ecf986ca, 18),
  (0x4a220e6096b25eadb88358cb44068a3248254675, 18),
  (0xc845b2894dbddd03858fd2d643b4ef725fe0849d, 18)]

end PropAMM.Prices

/-! ## Rust -/

namespace PropAMM.Rust.Prices

/-- `decimals_table` -/
def decimalsTable (extra : Dict Address UInt8) : Dict Address UInt8 :=
  (Dict.empty.insertAll PropAMM.Prices.tokenDecimals).insertAll extra.entries

end PropAMM.Rust.Prices

/-! ## Python -/

namespace PropAMM.Python.Prices

open Text PropAMM.Prices PropAMM.Python.Overrides

/-- `TOKEN_DECIMALS`, keyed by the lowered addresses. -/
def tokenDecimals : List (String × Int) :=
  PropAMM.Prices.tokenDecimals.map fun e => (addressText e.1, e.2.toNat)

section Parser

variable (lib : Library)

/-- `_decimals_table`; the error is a `PricesError`. -/
def decimalsTable (decimals : Dict String Int) : Except String (Dict String Int) :=
  match decimals.entries.find? fun e => !isTokenDecimals e.2 with
  | some e => .error s!"decimals for {e.1} must be an integer 0-255, got {e.2}"
  | none => .ok ((Dict.empty.insertAll tokenDecimals).insertAll
      (Dict.empty.insertAll (decimals.entries.map fun e => (lib.strLower e.1, e.2))).entries)

/-- `_parse_address` -/
def parseAddress (value : Option Value) : Option String :=
  (value.bind Value.asStr?).bind lib.toChecksumAddress

/-- An `int`, which a `bool` is not taken for. -/
def asInt? : Value → Option Int
  | .number (.finite negative magnitude true _) =>
      some (if negative then -magnitude.coefficient else magnitude.coefficient)
  | .number (.zero _ true) => some 0
  | _ => none

/-- `_parse_u64_field` -/
def parseU64Field (value : Value) : Option Int :=
  match asInt? value, value with
  | some n, _ => some n
  | none, .str text =>
      match stripPrefix0x text with
      | some hex => lib.int 16 hex.toList
      | none => if text = "" then none else lib.int 10 text.toList
  | none, _ => none

/-- `none` where the loop over the books continues. -/
def parseBook (decimals : Dict String Int) (book : Value) : Option Book := do
  let quoteAddress ← (book.get? "quoteAddress").bind Value.asStr?
  let token1 ← parseAddress lib (book.get? "token1Address")
  let token2 ← parseAddress lib (book.get? "token2Address")
  let d1 ← (decimals.get? (lib.strLower token1)).filter isTokenDecimals
  let d2 ← (decimals.get? (lib.strLower token2)).filter isTokenDecimals
  let pamm ← lib.toChecksumAddress ((venueOf (lib.strLower quoteAddress)).getD quoteAddress)
  some {
    pamm, token1, token2
    bids := bids (book.get? "bids") d1.toNat d2.toNat
    asks := asks (book.get? "asks") d1.toNat d2.toNat }

def addBook (decimals : Dict String Int) (byPamm : ByPamm (String × String)) (book : Value) :
    ByPamm (String × String) :=
  match parseBook lib decimals book with
  | none => byPamm
  | some b => b.addTo Prod.mk byPamm

/-- `_parse_books` -/
def parseBooks (decimals : Dict String Int) (raw : Value) (books : List Value) :
    PriceLevelsSnapshot where
  blockNumber := (raw.get? "block").bind (parseU64Field lib)
  slot := (raw.get? "slot").bind (parseU64Field lib)
  timestampNs := (raw.get? "ts").bind asInt?
  pamms := listed (books.foldl (addBook lib decimals) .empty)

end Parser

end PropAMM.Python.Prices

/-! ## TypeScript -/

namespace PropAMM.TypeScript.Prices

open Text PropAMM.Prices PropAMM.TypeScript.Overrides

/-- `TOKEN_DECIMALS` -/
def tokenDecimals : List (String × Int) :=
  PropAMM.Prices.tokenDecimals.map fun e => (addressText e.1, e.2.toNat)

section Parser

variable (lib : Library)

/-- The error is what the loop throws at the first entry out of range. -/
def decimalsTable (decimals : Dict String Int) : Except String (Dict String Int) :=
  match (ownEntries decimals).find? fun e => !isTokenDecimals e.2 with
  | some e => .error s!"decimals for {e.1} must be an integer 0-255, got {e.2}"
  | none =>
      .ok (putAll (Dict.empty.insertAll tokenDecimals)
        ((ownEntries decimals).map fun e => (lib.lower e.1, e.2)))

def pairKey (tokenIn tokenOut : String) : String := s!"{tokenIn}:{tokenOut}"

/-- Towards zero, as `Math.trunc` rounds. -/
def trunc (magnitude : DecimalText.Shortest) : Nat :=
  if 0 ≤ magnitude.exponent then magnitude.significand * 10 ^ magnitude.exponent.toNat
  else magnitude.significand / 10 ^ (-magnitude.exponent).toNat

def parseUintField : Value → Option Int
  | .number (.finite negative magnitude _ _) =>
      some (if negative then -trunc magnitude else trunc magnitude)
  | .number (.zero _ _) => some 0
  | .str text => if text = "" then none else bigIntOfString text
  | _ => none

/-- The properties every object inherits whose names are lower case; they are no strings, so
    that lowering them throws. -/
def inherited : List String := ["constructor", "__proto__"]

/-- `none` where it throws; the inner `none` is where the loop over the books continues. -/
def parseBook (decimals : Dict String Int) (book : Value) : Option (Option Book) :=
  match (book.get? "quoteAddress").bind Value.asStr?, (book.get? "token1Address").bind Value.asStr?,
      (book.get? "token2Address").bind Value.asStr? with
  | some quoteAddress, some token1, some token2 =>
      let t1 := lib.lower token1
      let t2 := lib.lower token2
      match (decimals.get? t1).filter isTokenDecimals, (decimals.get? t2).filter
        isTokenDecimals with
      | some d1, some d2 =>
          let qa := lib.lower quoteAddress
          if inherited.contains qa then none
          else some (some {
            pamm := (venueOf qa).getD qa
            token1 := t1, token2 := t2
            bids := bids (book.get? "bids") d1.toNat d2.toNat
            asks := asks (book.get? "asks") d1.toNat d2.toNat })
      | _, _ => some none
  | _, _, _ => some none

def addBook (decimals : Dict String Int) (byPamm : ByPamm String) (book : Value) :
    Option (ByPamm String) :=
  (parseBook lib decimals book).map fun
    | none => byPamm
    | some b => b.addTo pairKey byPamm

def parseBooks (decimals : Dict String Int) (message : Value) (books : List Value) :
    Option PriceLevelsSnapshot :=
  (books.foldlM (addBook lib decimals) .empty).map fun byPamm => {
    blockNumber := (message.get? "block").bind parseUintField
    slot := (message.get? "slot").bind parseUintField
    timestampNs := (message.get? "ts").bind parseUintField
    pamms := listed byPamm }

def findPair (snapshot : PriceLevelsSnapshot) (pamm tokenIn tokenOut : String) :
    Option PairPriceLevels :=
  let wantPamm := lib.lower pamm
  let wantIn := lib.lower tokenIn
  let wantOut := lib.lower tokenOut
  (snapshot.pamms.find? fun entry => entry.pamm = wantPamm).bind fun entry =>
    entry.pairs.find? fun pair => pair.tokenIn = wantIn && pair.tokenOut = wantOut

end Parser

end PropAMM.TypeScript.Prices

/-! ## Addresses -/

namespace PropAMM.Rust.Crates

open Text

/-- What is documented of `hex::decode`: pairs of digits are bytes. -/
def ReadsHex (crates : Crates) : Prop :=
  ∀ s bytes, bytesOfHex s.toList = some bytes → crates.hexDecode s = .ok bytes

theorem even_of_bytesOfHex {l : List Char} {bytes : List UInt8} (read : bytesOfHex l = some bytes) :
    (String.ofList l).utf8ByteSize % 2 = 0 := by
  have single : ∀ n : Fin 128, (String.ofList [Char.ofNat n]).utf8ByteSize = 1 := by decide +kernel
  have byte : ∀ {c : Char} {d : Nat}, toDigit 16 c = some d →
      (String.ofList [c]).utf8ByteSize = 1 := by
    intro c d digit
    have here := single ⟨c.toNat, ascii_of_toDigit digit⟩
    rwa [Char.ofNat_toNat] at here
  induction l using bytesOfHex.induct generalizing bytes with
  | case1 => rfl
  | case2 c => cases read
  | case3 hi lo rest ih =>
      obtain ⟨h, high, read⟩ := Option.bind_eq_some_iff.mp read
      obtain ⟨d, low, read⟩ := Option.bind_eq_some_iff.mp read
      obtain ⟨tail, behind, _⟩ := Option.map_eq_some_iff.mp read
      have pieces : String.ofList (hi :: lo :: rest) = String.ofList [hi] ++
          (String.ofList [lo] ++ String.ofList rest) := by
        rw [← String.ofList_append, ← String.ofList_append]
        rfl
      have even := ih behind
      rw [pieces, String.utf8ByteSize_append, String.utf8ByteSize_append, byte high, byte low]
      omega

theorem documented_readsHex : documented.ReadsHex := by
  intro s bytes read
  have even := even_of_bytesOfHex read
  rw [String.ofList_toList] at even
  unfold documented
  simp only [read]
  rw [if_neg (by omega)]

/-- The bytes that an even number of digits spell. -/
theorem bytesOfHex_digits {k n m : Nat} {l : List Char} (value : digitsFrom 16 n l = some m)
    (length : l.length = 2 * k) : ∃ bytes, bytesOfHex l = some bytes ∧ bytes.length = k ∧
      bytes.foldl (fun n b => n * 256 + b.toNat) n = m := by
  induction k generalizing n l with
  | zero =>
      cases List.length_eq_zero_iff.mp length
      exact ⟨[], rfl, rfl, Option.some.inj value⟩
  | succ k ih =>
      match l, length, value with
      | hi :: lo :: rest, length, value =>
          obtain ⟨h, high, value⟩ := Option.bind_eq_some_iff.mp value
          obtain ⟨d, low, value⟩ := Option.bind_eq_some_iff.mp value
          have short : rest.length = 2 * k := by
            simp only [List.length_cons] at length
            omega
          obtain ⟨bytes, read, count, sum⟩ := ih value short
          have small := (digitChar_of_toDigit high).1
          have small' := (digitChar_of_toDigit low).1
          have byte : (UInt8.ofNat (16 * h + d)).toNat = 16 * h + d := by
            rw [UInt8.toNat_ofNat']
            omega
          refine ⟨UInt8.ofNat (16 * h + d) :: bytes, ?_, by rw [List.length_cons, count], ?_⟩
          · simp only [bytesOfHex, high, low, read, Option.bind_some, Option.map_some]
          · rw [List.foldl_cons, byte, ← sum]
            congr 1
            ring

theorem ReadsHex.parseAddress {crates : Crates} (reads : crates.ReadsHex) {s : String} {a : Address}
    (named : address? s = some a) : crates.parseAddress s = .ok a := by
  obtain ⟨hex, n, text, length, value, rfl⟩ := hexOf?_eq_some named
  have forty : hex.length = 2 * 20 := of_decide_eq_true length
  obtain ⟨bytes, read, count, sum⟩ := bytesOfHex_digits value forty
  have untrimmed : trimStart0x hex = hex := by
    unfold trimStart0x
    split
    · obtain ⟨d, digit⟩ := digit_of_mem value 'x' (by simp)
      cases digit
    · rfl
  have trimmed : trimStart0x ('0' :: 'x' :: hex) = hex := untrimmed
  unfold Crates.parseAddress
  rw [text, trimmed, reads (String.ofList hex) bytes (by rw [String.toList_ofList]; exact read)]
  show (if bytes.length ≠ 20 then _ else _) = _
  rw [if_neg (not_not_intro count), addressFromSlice, sum]

end PropAMM.Rust.Crates

/-! ## Filing by text -/

namespace PropAMM.Prices

def PairPriceLevels.direction (p : PairPriceLevels) : String × String := (p.tokenIn, p.tokenOut)

/-- The sides of a book with rungs, pushed onto a group. -/
def Book.pushTo (b : Book) (group : PammPriceLevels) : PammPriceLevels :=
  { group with
    pairs := Keyed.pushAll PairPriceLevels.direction group.pairs
      (b.sides.filter fun s => !s.orderBook.isEmpty) }

/-- What filing a book comes to, whatever the dictionaries are keyed by. -/
def Book.fileIn (b : Book) (pamms : List PammPriceLevels) : List PammPriceLevels :=
  Keyed.updateAt PammPriceLevels.pamm b.pamm { pamm := b.pamm, pairs := [] } b.pushTo pamms

section Files

variable {κ : Type} [DecidableEq κ] {pairKey : String → String → κ} {Named : String → Prop}

/-- The keys tell the directions between named tokens apart. -/
def Unambiguous (pairKey : String → String → κ) (Named : String → Prop) : Prop :=
  ∀ t u t' u', Named t → Named u → Named t' → Named u' → pairKey t u = pairKey t' u' →
    t = t' ∧ u = u'

/-- Every side stands under its own direction, between named tokens. -/
def Directed (pairKey : String → String → κ) (Named : String → Prop)
    (pairs : Dict κ PairPriceLevels) : Prop :=
  ∀ e ∈ pairs.entries, e.1 = pairKey e.2.tokenIn e.2.tokenOut ∧ Named e.2.tokenIn ∧
    Named e.2.tokenOut

variable (apart : Unambiguous pairKey Named)

include apart

theorem addSide_entries {pairs : Dict κ PairPriceLevels} (directed : Directed pairKey Named pairs)
    {side : PairPriceLevels} (tokenIn : Named side.tokenIn) (tokenOut : Named side.tokenOut) :
    Directed pairKey Named (addSide pairKey pairs side) ∧
      (addSide pairKey pairs side).entries.map Prod.snd =
        Keyed.pushAll PairPriceLevels.direction (pairs.entries.map Prod.snd)
          ([side].filter fun s => !s.orderBook.isEmpty) := by
  unfold addSide
  cases rungs : side.orderBook with
  | nil =>
      rw [if_neg (not_not_intro rfl)]
      have dropped : [side].filter (fun s => !s.orderBook.isEmpty) = [] := by simp [rungs]
      rw [dropped]
      exact ⟨directed, rfl⟩
  | cons l ls =>
      have kept : [side].filter (fun s => !s.orderBook.isEmpty) = [side] := by simp [rungs]
      rw [if_pos (by simp), kept]
      constructor
      · intro e member
        rw [Dict.entries_insert_new] at member
        unfold Keyed.pushNew at member
        split at member
        · exact directed e member
        · rcases List.mem_append.mp member with old | new
          · exact directed e old
          · rw [List.mem_singleton.mp new]
            exact ⟨rfl, tokenIn, tokenOut⟩
      · have same : ∀ e ∈ pairs.entries, e.2.direction = side.direction ↔
            e.1 = pairKey side.tokenIn side.tokenOut := by
          intro e member
          obtain ⟨key, from_named, to_named⟩ := directed e member
          rw [key]
          constructor
          · intro same
            obtain ⟨from_same, to_same⟩ := Prod.ext_iff.mp same
            exact congrArg₂ pairKey from_same to_same
          · intro same
            obtain ⟨from_same, to_same⟩ := apart _ _ _ _ from_named to_named tokenIn tokenOut same
            exact Prod.ext from_same to_same
        rw [Dict.entries_insert_new]
        exact Keyed.map_pushNew same

/-- The sides of a book, filed one after the other. -/
theorem addSides_entries {pairs : Dict κ PairPriceLevels} (directed : Directed pairKey Named pairs)
    {sides : List PairPriceLevels} (named : ∀ s ∈ sides, Named s.tokenIn ∧ Named s.tokenOut) :
    Directed pairKey Named (sides.foldl (addSide pairKey) pairs) ∧
      (sides.foldl (addSide pairKey) pairs).entries.map Prod.snd =
        Keyed.pushAll PairPriceLevels.direction (pairs.entries.map Prod.snd)
          (sides.filter fun s => !s.orderBook.isEmpty) := by
  induction sides generalizing pairs with
  | nil => exact ⟨directed, rfl⟩
  | cons side sides ih =>
      obtain ⟨⟨tokenIn, tokenOut⟩, others⟩ := List.forall_mem_cons.mp named
      obtain ⟨still, one⟩ := addSide_entries apart directed tokenIn tokenOut
      obtain ⟨after, rest⟩ := ih still others
      have both : (side :: sides).filter (fun s => !s.orderBook.isEmpty) =
          [side].filter (fun s => !s.orderBook.isEmpty) ++ sides.filter fun s =>
            !s.orderBook.isEmpty := by
        rw [← List.filter_append, List.singleton_append]
      refine ⟨after, ?_⟩
      rw [List.foldl_cons, rest, one, both]
      exact List.foldl_append.symm

/-- A file of directed groups. -/
def Filed (pairKey : String → String → κ) (Named : String → Prop) (byPamm : ByPamm κ) : Prop :=
  ∀ e ∈ byPamm.entries, Directed pairKey Named e.2

/-- Filing a book in nested dictionaries is filing it in the list they stand for. -/
theorem addTo_listed {byPamm : ByPamm κ} (filed : Filed pairKey Named byPamm) {b : Book}
    (first : Named b.token1) (second : Named b.token2) :
    Filed pairKey Named (b.addTo pairKey byPamm) ∧ listed (b.addTo pairKey byPamm) =
      b.fileIn (listed byPamm) := by
  have named : ∀ s ∈ b.sides, Named s.tokenIn ∧ Named s.tokenOut := by
    intro s member
    rcases List.mem_cons.mp member with rfl | member
    · exact ⟨first, second⟩
    · cases List.mem_singleton.mp member
      exact ⟨second, first⟩
  have empty : Directed pairKey Named Dict.empty := by
    intro e member
    cases member
  unfold Filed listed Book.fileIn Book.addTo
  rw [Dict.entries_update byPamm b.pamm .empty fun pairs => b.sides.foldl (addSide pairKey) pairs]
  constructor
  · apply Keyed.forall_updateAt filed
    · exact (addSides_entries apart empty named).1
    · intro e directed
      exact (addSides_entries apart directed named).1
  · apply Keyed.map_updateAt_eq
    · intro e _
      exact Iff.rfl
    · exact congrArg (PammPriceLevels.mk b.pamm) (addSides_entries apart empty named).2
    · intro e member _
      exact congrArg (PammPriceLevels.mk e.1) (addSides_entries apart (filed e member) named).2

end Files

end PropAMM.Prices

/-! ## Filing by address -/

namespace PropAMM.Rust.Prices

variable (text : Address → String)

def PairPriceLevels.named (p : PairPriceLevels) : PropAMM.Prices.PairPriceLevels :=
  { tokenIn := text p.tokenIn, tokenOut := text p.tokenOut, orderBook := p.orderBook }

def PammPriceLevels.named (p : PammPriceLevels) : PropAMM.Prices.PammPriceLevels :=
  { pamm := text p.pamm, pairs := p.pairs.map (PairPriceLevels.named text) }

/-- A snapshot with its addresses written out. -/
def PriceLevelsSnapshot.named (s : PriceLevelsSnapshot) : PropAMM.Prices.PriceLevelsSnapshot :=
  { blockNumber := s.blockNumber.map Int.ofNat, slot := s.slot.map Int.ofNat
    timestampNs := s.timestampNs.map Int.ofNat, pamms := s.pamms.map (PammPriceLevels.named text) }

def Book.named (b : Book) : PropAMM.Prices.Book :=
  { pamm := text b.venue, token1 := text b.token1, token2 := text b.token2, bids := b.bids,
    asks := b.asks }

variable {text} (injective : Function.Injective text)

include injective

/-- Filing a book by address and writing out is writing out and filing by text. -/
theorem Book.addTo_named (b : Book) (pamms : List PammPriceLevels) :
    (b.addTo pamms).map (PammPriceLevels.named text) = (b.named text).fileIn
      (pamms.map (PammPriceLevels.named text)) := by
  have pushed : ∀ group : PammPriceLevels, (b.fileIn group).named text = (b.named text).pushTo
      (group.named text) := by
    intro group
    have direction : ∀ p q : PairPriceLevels, (p.named text).direction = (q.named text).direction ↔
        p.direction = q.direction := by
      intro p q
      simp only [PropAMM.Prices.PairPriceLevels.direction, PairPriceLevels.direction,
        PairPriceLevels.named, Prod.mk.injEq, injective.eq_iff]
    have sides : (b.sides.filter fun s => !s.orderBook.isEmpty).map (PairPriceLevels.named text) =
        (b.named text).sides.filter fun s => !s.orderBook.isEmpty := by
      have whole : (b.named text).sides = b.sides.map (PairPriceLevels.named text) := rfl
      rw [whole, List.filter_map]
      rfl
    unfold Book.fileIn PammPriceLevels.named PropAMM.Prices.Book.pushTo
    rw [foldl_addSide, Keyed.map_pushAll direction, sides]
  unfold Book.addTo PropAMM.Prices.Book.fileIn
  apply Keyed.map_updateAt_eq
  · intro group _
    exact injective.eq_iff
  · exact pushed _
  · intro group _ _
    exact pushed group

end PropAMM.Rust.Prices

/-! ## One book -/

namespace PropAMM.Prices

open Text

/-- A float, or an integer literal that a double holds exactly. -/
def Number.Unrounded : Number → Prop
  | .finite _ magnitude integer _ => integer = true → magnitude.coefficient < 2 ^ 53
  | _ => True

/-- Both fields of the rung are the same number to every decoder. -/
def Rung.Unrounded (r : Rung) : Prop :=
  ∀ key ∈ ["cumVolume", "price"], ∀ n, r.entry.get? key = some (.number n) → n.Unrounded

/-- What Titan publishes: the three addresses are address texts where they are texts at all,
    and the rungs are positive numbers that `Rung` can hold, an integer literal among them
    below `2 ^ 53`. Any other field may be there too. -/
structure Published (book : Value) : Prop where
  addresses : ∀ key ∈ ["quoteAddress", "token1Address", "token2Address"],
    ∀ s, book.get? key = some (.str s) → ∃ a, address? s = some a
  rungs : ∀ key ∈ ["bids", "asks"], ∀ items, book.get? key = some (.arr items) →
    ∃ rungs : List Rung, (∀ r ∈ rungs, r.Unrounded) ∧ items = rungs.map Rung.entry

/-- A table by address and one by text hold the same decimals. -/
def SameDecimals (decimals : Dict Address UInt8) (texts : Dict String Int) : Prop :=
  ∀ a, texts.get? (addressText a) = (decimals.get? a).map fun d => (d.toNat : Int)

theorem SameDecimals.known {decimals : Dict Address UInt8} {texts : Dict String Int}
    (same : SameDecimals decimals texts) (a : Address) :
    (texts.get? (addressText a)).filter isTokenDecimals =
      (decimals.get? a).map fun d => (d.toNat : Int) := by
  rw [same a]
  cases decimals.get? a with
  | none => rfl
  | some d =>
      have range : isTokenDecimals d.toNat = true := by
        have small := d.toNat_lt
        unfold isTokenDecimals
        exact decide_eq_true ⟨by omega, by omega⟩
      rw [Option.map_some, Option.filter_some, if_pos range]

/-- An address field is missing, or names an address. -/
theorem Published.address_cases {book : Value} (published : Published book) (key : String)
    (known : key ∈ ["quoteAddress", "token1Address", "token2Address"]) :
    (book.get? key).bind Value.asStr? = none ∨
      ∃ s a, (book.get? key).bind Value.asStr? = some s ∧ address? s = some a := by
  cases field : book.get? key with
  | none => exact .inl rfl
  | some v =>
      cases v with
      | str s =>
          obtain ⟨a, named⟩ := published.addresses key known s field
          exact .inr ⟨s, a, rfl, named⟩
      | _ => exact .inl rfl

/-- A side's rungs, or nothing to read. -/
theorem Published.side_cases {book : Value} (published : Published book) (key : String)
    (known : key ∈ ["bids", "asks"]) : (book.get? key).bind Value.asArray? = none ∨
      ∃ rungs : List Rung, book.get? key = some (.arr (rungs.map Rung.entry)) := by
  cases field : book.get? key with
  | none => exact .inl rfl
  | some v =>
      cases v with
      | arr items =>
          obtain ⟨rungs, _, rfl⟩ := published.rungs key known items field
          exact .inr ⟨rungs, rfl⟩
      | _ => exact .inl rfl

/-- Both other SDKs rebuild the levels that Rust rebuilds. -/
theorem Published.bids_alike {book : Value} (published : Published book) (d1 d2 : Nat) :
    Python.Prices.bids (book.get? "bids") d1 d2 = Rust.Prices.bids (book.get? "bids") d1 d2 ∧
      TypeScript.Prices.bids (book.get? "bids") d1 d2 = Rust.Prices.bids (book.get? "bids") d1
        d2 := by
  rcases published.side_cases "bids" (by simp) with nothing | ⟨rungs, field⟩
  · simp only [Python.Prices.bids, Python.Prices.rungs, TypeScript.Prices.bids,
      TypeScript.Prices.parseRungs, Rust.Prices.bids, Rust.Prices.rungs, nothing]
    exact ⟨rfl, rfl⟩
  · rw [field, Rust.Prices.bids_eq, Python.Prices.bids_eq, TypeScript.Prices.bids_eq]
    exact ⟨rfl, rfl⟩

theorem Published.asks_alike {book : Value} (published : Published book) (d1 d2 : Nat) :
    Python.Prices.asks (book.get? "asks") d1 d2 = Rust.Prices.asks (book.get? "asks") d1 d2 ∧
      TypeScript.Prices.asks (book.get? "asks") d1 d2 = Rust.Prices.asks (book.get? "asks") d1
        d2 := by
  rcases published.side_cases "asks" (by simp) with nothing | ⟨rungs, field⟩
  · simp only [Python.Prices.asks, Python.Prices.rungs, TypeScript.Prices.asks,
      TypeScript.Prices.parseRungs, Rust.Prices.asks, Rust.Prices.rungs, nothing]
    exact ⟨rfl, rfl⟩
  · rw [field, Rust.Prices.asks_eq, Python.Prices.asks_eq, TypeScript.Prices.asks_eq]
    exact ⟨rfl, rfl⟩

/-- The lowered texts find what the addresses find. -/
theorem venues_by_text (quoteAddress : Address) :
    (quoteAddressVenues.find? fun e => addressText e.1 = addressText quoteAddress) =
      quoteAddressVenues.find? fun e => e.1 = quoteAddress := by
  simp only [addressText_injective.eq_iff]

end PropAMM.Prices

namespace PropAMM.Rust.Prices

open Text PropAMM.Prices

theorem address_none {crates : Crates} {book : Value} {key : String}
    (missing : (book.get? key).bind Value.asStr? = none) : address crates book key = none := by
  unfold address
  rw [missing]
  rfl

theorem address_named {crates : Crates} (reads : crates.ReadsHex) {book : Value} {key s : String}
    {a : Address} (field : (book.get? key).bind Value.asStr? = some s)
    (named : address? s = some a) :
    address crates book key = some a := by
  unfold address
  rw [field, Option.bind_some, reads.parseAddress named]
  rfl

end PropAMM.Rust.Prices

namespace PropAMM.Python

open Text PropAMM.Prices

/-- What is documented of `to_checksum_address`: it reads an address in any letter case, and
    writes it in one. -/
structure Overrides.Library.Checksums (lib : Overrides.Library) (checksum : Address → String) :
    Prop where
  reads : ∀ s a, address? s = some a → lib.toChecksumAddress s = some (checksum a)
  named : ∀ a, address? (checksum a) = some a

namespace Prices

variable {lib : Overrides.Library} {checksum : Address → String}
  (checksums : lib.Checksums checksum)

include checksums

theorem checksum_injective : Function.Injective checksum := by
  intro a b same
  have read := congrArg address? same
  rw [checksums.named, checksums.named] at read
  exact Option.some.inj read

theorem parseAddress_named {value : Option Value} {s : String} {a : Address}
    (field : value.bind Value.asStr? = some s) (named : address? s = some a) :
    parseAddress lib value = some (checksum a) := by
  unfold parseAddress
  rw [field, Option.bind_some, checksums.reads s a named]

/-- A published book is skipped or read by both, with the same levels. -/
theorem parseBook_published {crates : Rust.Crates} (reads : crates.ReadsHex)
    {decimals : Dict Address UInt8} {texts : Dict String Int} (same : SameDecimals decimals texts)
    {book : Value} (published : Published book) :
    parseBook lib texts book =
      (Rust.Prices.parseBook crates decimals book).map (Rust.Prices.Book.named checksum) := by
  unfold parseBook Rust.Prices.parseBook
  rcases published.address_cases "quoteAddress" (by simp) with nothing |
    ⟨q, quoteAddress, quoted, quoteNamed⟩
  · rw [nothing, Rust.Prices.address_none nothing]
    rfl
  rw [quoted, Rust.Prices.address_named reads quoted quoteNamed]
  rcases published.address_cases "token1Address" (by simp) with nothing |
    ⟨s1, token1, first, named1⟩
  · rw [parseAddress, nothing, Rust.Prices.address_none nothing]
    rfl
  rw [parseAddress_named checksums first named1, Rust.Prices.address_named reads first named1]
  rcases published.address_cases "token2Address" (by simp) with nothing |
    ⟨s2, token2, second, named2⟩
  · rw [parseAddress, nothing, Rust.Prices.address_none nothing]
    rfl
  rw [parseAddress_named checksums second named2, Rust.Prices.address_named reads second named2]
  simp only [Option.bind_eq_bind, Option.bind_some, lib.strLower_address (checksums.named token1),
    lib.strLower_address (checksums.named token2), lib.strLower_address quoteNamed, same.known]
  cases decimals.get? token1 with
  | none => rfl
  | some d1 =>
      cases decimals.get? token2 with
      | none => rfl
      | some d2 =>
          have venue :
              lib.toChecksumAddress ((Overrides.venueOf (addressText quoteAddress)).getD q) =
                some (checksum (venueForQuoteAddress quoteAddress)) := by
            unfold Overrides.venueOf venueForQuoteAddress
            rw [venues_by_text]
            cases quoteAddressVenues.find? fun e => decide (e.1 = quoteAddress) with
            | none => exact checksums.reads q quoteAddress quoteNamed
            | some e => exact checksums.reads (addressText e.2) e.2 (address?_addressText e.2)
          simp only [Option.map_some, Option.bind_some, venue]
          rw [Int.toNat_natCast, Int.toNat_natCast, (published.bids_alike _ _).1,
            (published.asks_alike _ _).1]
          rfl

end Prices

end PropAMM.Python

namespace PropAMM.TypeScript.Prices

open Text PropAMM.Prices

theorem not_inherited (a : Address) : inherited.contains (addressText a) = false := by
  have read := address?_addressText a
  unfold inherited
  simp only [List.contains_cons, List.contains_nil, Bool.or_false, Bool.or_eq_false_iff,
    beq_eq_false_iff_ne]
  constructor
  all_goals
    intro same
    rw [same] at read
    cases read

theorem parseBook_published (lib : Overrides.Library) {crates : Rust.Crates}
    (reads : crates.ReadsHex) {decimals : Dict Address UInt8} {texts : Dict String Int}
    (same : SameDecimals decimals texts) {book : Value} (published : Published book) :
    parseBook lib texts book =
      some ((Rust.Prices.parseBook crates decimals book).map
        (Rust.Prices.Book.named addressText)) := by
  unfold parseBook Rust.Prices.parseBook
  rcases published.address_cases "quoteAddress" (by simp) with nothing |
    ⟨q, quoteAddress, quoted, quoteNamed⟩
  · rw [nothing, Rust.Prices.address_none nothing]
    rfl
  rw [quoted, Rust.Prices.address_named reads quoted quoteNamed]
  rcases published.address_cases "token1Address" (by simp) with nothing |
    ⟨s1, token1, first, named1⟩
  · rw [nothing, Rust.Prices.address_none nothing]
    rfl
  rw [first, Rust.Prices.address_named reads first named1]
  rcases published.address_cases "token2Address" (by simp) with nothing |
    ⟨s2, token2, second, named2⟩
  · rw [nothing, Rust.Prices.address_none nothing]
    rfl
  rw [second, Rust.Prices.address_named reads second named2]
  simp only [Option.bind_eq_bind, Option.bind_some, lib.lower_address named1,
    lib.lower_address named2, lib.lower_address quoteNamed, same.known, not_inherited,
    Bool.false_eq_true, if_false]
  cases decimals.get? token1 with
  | none => rfl
  | some d1 =>
      cases decimals.get? token2 with
      | none => rfl
      | some d2 =>
          have venue : (Overrides.venueOf (addressText quoteAddress)).getD
              (addressText quoteAddress) = addressText (venueForQuoteAddress quoteAddress) := by
            unfold Overrides.venueOf venueForQuoteAddress
            rw [venues_by_text]
            cases quoteAddressVenues.find? fun e => decide (e.1 = quoteAddress) <;> rfl
          simp only [Option.map_some, Option.bind_some, venue]
          rw [Int.toNat_natCast, Int.toNat_natCast, (published.bids_alike _ _).2,
            (published.asks_alike _ _).2]
          rfl

end PropAMM.TypeScript.Prices

/-! ## All books -/

namespace PropAMM.Prices

section Files

variable {κ : Type} [DecidableEq κ] {pairKey : String → String → κ} {text : Address → String}

/-- Filing what Rust parses, by text. -/
def fileNamed (pairKey : String → String → κ) (text : Address → String) (byPamm : ByPamm κ) :
    Option Rust.Prices.Book → ByPamm κ
  | none => byPamm
  | some b => (b.named text).addTo pairKey byPamm

theorem files_alike (injective : Function.Injective text)
    (apart : Unambiguous pairKey (· ∈ Set.range text)) (crates : Rust.Crates)
    (decimals : Dict Address UInt8) (books : List Value) {byPamm : ByPamm κ}
    (filed : Filed pairKey (· ∈ Set.range text) byPamm) {pamms : List Rust.Prices.PammPriceLevels}
    (same : listed byPamm = pamms.map (Rust.Prices.PammPriceLevels.named text)) :
    listed (books.foldl (fun byPamm book => fileNamed pairKey text byPamm
        (Rust.Prices.parseBook crates decimals book)) byPamm) =
      (books.foldl (Rust.Prices.addBook crates decimals) pamms).map
        (Rust.Prices.PammPriceLevels.named text) := by
  induction books generalizing byPamm pamms with
  | nil => exact same
  | cons book books ih =>
      rw [List.foldl_cons, List.foldl_cons]
      unfold Rust.Prices.addBook
      cases Rust.Prices.parseBook crates decimals book with
      | none => exact ih filed same
      | some b =>
          obtain ⟨still, into⟩ := addTo_listed apart filed (b := b.named text) ⟨b.token1, rfl⟩
            ⟨b.token2, rfl⟩
          apply ih still
          show listed ((b.named text).addTo pairKey byPamm) = _
          rw [into, same]
          exact (b.addTo_named injective pamms).symm

end Files

end PropAMM.Prices

/-! ## Decimals -/

namespace PropAMM.Prices

open Text

/-- One entry of what a caller passes for decimals, under any text of the token's address. -/
structure Extra where
  text : String
  token : Address
  decimals : UInt8
  named : address? text = some token

/-- A caller's decimals: one entry a text. -/
structure Extras where
  entries : List Extra
  once : (entries.map Extra.text).Nodup

namespace Extras

/-- As Rust takes them. -/
def byAddress (extras : Extras) : Dict Address UInt8 :=
  Dict.empty.insertAll (extras.entries.map fun e => (e.token, e.decimals))

/-- As Python and TypeScript take them. -/
def byText (extras : Extras) : Dict String Int where
  entries := extras.entries.map fun e => (e.text, (e.decimals.toNat : Int))
  nodup := by
    rw [List.map_map]
    exact extras.once

variable (extras : Extras)

theorem in_range : (extras.byText.entries.find? fun e => !isTokenDecimals e.2) = none := by
  rw [List.find?_eq_none]
  intro e member
  obtain ⟨extra, _, rfl⟩ := List.mem_map.mp member
  have small := extra.decimals.toNat_lt
  unfold isTokenDecimals
  simp only [Bool.not_eq_true', Bool.not_eq_false, decide_eq_true_eq]
  exact ⟨by omega, by omega⟩

/-- The texts brought to one form, written over a table of texts. -/
theorem sameDecimals {lower : String → String}
    (lowers : ∀ s a, address? s = some a → lower s = addressText a) :
    SameDecimals (Rust.Prices.decimalsTable extras.byAddress)
      ((Dict.empty.insertAll Python.Prices.tokenDecimals).insertAll
        (extras.byText.entries.map fun e => (lower e.1, e.2))) := by
  intro a
  have moved : ∀ (log : List (Address × UInt8)) (token : Address),
      WriteLog.last (log.map fun e => (addressText e.1, (e.2.toNat : Int))) (addressText token) =
        (WriteLog.last log token).map fun d => (d.toNat : Int) := by
    intro log token
    rw [← WriteLog.last_map_snd (fun _ d => (UInt8.toNat d : Int)),
      ← WriteLog.last_map addressText_injective, List.map_map]
    rfl
  have lowered : (extras.byText.entries.map fun e => (lower e.1, e.2)) =
      (extras.entries.map fun e => (e.token, e.decimals)).map fun e =>
        (addressText e.1, (e.2.toNat : Int)) := by
    unfold byText
    rw [List.map_map, List.map_map]
    apply List.map_congr_left
    intro e _
    exact congrArg (·, (e.decimals.toNat : Int)) (lowers e.text e.token e.named)
  have visited : WriteLog.last extras.byAddress.entries a =
      WriteLog.last (extras.entries.map fun e => (e.token, e.decimals)) a := by
    show extras.byAddress.get? a = _
    unfold byAddress
    rw [Dict.get?_insertAll, Dict.get?_empty, Option.or_none]
  unfold Rust.Prices.decimalsTable Python.Prices.tokenDecimals
  rw [Dict.get?_insertAll, Dict.get?_insertAll, Dict.get?_insertAll, Dict.get?_insertAll, lowered,
    moved, moved, visited]
  simp only [Dict.get?_empty, Option.or_none]
  cases WriteLog.last (extras.entries.map fun e => (e.token, e.decimals)) a <;> rfl

end Extras

end PropAMM.Prices

namespace PropAMM.Python.Prices

open Text PropAMM.Prices

theorem decimalsTable_extras (lib : Overrides.Library) (extras : Extras) : ∃ table,
    decimalsTable lib extras.byText = .ok table ∧
    SameDecimals (Rust.Prices.decimalsTable extras.byAddress) table := by
  unfold decimalsTable
  rw [extras.in_range]
  refine ⟨_, rfl, fun a => ?_⟩
  rw [← extras.sameDecimals (fun s a named => lib.strLower_address named) a]
  have held : ∀ log : List (String × Int), WriteLog.last (Dict.empty.insertAll log).entries
      (addressText a) = WriteLog.last log (addressText a) := by
    intro log
    exact (Dict.get?_insertAll ..).trans Option.or_none
  rw [Dict.get?_insertAll, held, ← Dict.get?_insertAll]

end PropAMM.Python.Prices

namespace PropAMM.TypeScript.Prices

open Text PropAMM.Prices PropAMM.TypeScript.Overrides

theorem arrayIndex?_named {s : String} {a : Address} (named : address? s = some a) :
    arrayIndex? s = none := by
  obtain ⟨hex, n, text, _⟩ := hexOf?_eq_some named
  unfold arrayIndex?
  rw [text]
  rfl

/-- No address text is an array index, so that the entries stand as inserted. -/
theorem ownEntries_byText (extras : Extras) : ownEntries extras.byText = extras.byText.entries := by
  have none : ∀ e ∈ extras.byText.entries, arrayIndex? e.1 = none := by
    intro e member
    obtain ⟨extra, _, rfl⟩ := List.mem_map.mp member
    exact arrayIndex?_named extra.named
  unfold ownEntries
  rw [List.filter_eq_nil_iff.mpr, List.filter_eq_self.mpr, List.mergeSort_nil, List.nil_append]
  · intro e member
    rw [none e member]
    rfl
  · intro e member
    rw [none e member]
    exact Bool.false_ne_true

theorem decimalsTable_extras (lib : Library) (extras : Extras) : ∃ table,
    decimalsTable lib extras.byText = .ok table ∧
    SameDecimals (Rust.Prices.decimalsTable extras.byAddress) table := by
  have own : (extras.byText.entries.map fun e => (lib.lower e.1, e.2)).filter
      (fun e => e.1 ≠ "__proto__") = extras.byText.entries.map fun e => (lib.lower e.1, e.2) := by
    rw [List.filter_eq_self]
    intro e member
    obtain ⟨entry, listed, rfl⟩ := List.mem_map.mp member
    obtain ⟨extra, _, rfl⟩ := List.mem_map.mp listed
    have fresh := not_inherited extra.token
    unfold inherited at fresh
    simp only [lib.lower_address extra.named, decide_eq_true_eq]
    intro same
    rw [same] at fresh
    revert fresh
    decide
  unfold decimalsTable
  rw [ownEntries_byText, extras.in_range]
  refine ⟨_, rfl, fun a => ?_⟩
  rw [putAll_eq, own]
  exact extras.sameDecimals (fun s a named => lib.lower_address named) a

end PropAMM.TypeScript.Prices

/-! ## Block context -/

namespace PropAMM.Prices

open Text

/-- A natural number below the limit, written without fraction or exponent. -/
def Number.Exact (limit : Nat) : Number → Prop
  | .finite negative magnitude integer _ =>
      negative = false ∧ integer = true ∧ magnitude.coefficient < limit
  | .zero negative integer => negative = false ∧ integer = true
  | .nonfinite => False

/-- A quantity as JSON-RPC writes it, below `2 ^ 64`. -/
def HexQuantity (s : String) : Prop :=
  ∃ hex n, s.toList = '0' :: 'x' :: hex ∧ hex ≠ [] ∧ digitsFrom 16 0 hex = some n ∧ n < 2 ^ 64

/-- What Titan publishes beside the books: block and slot are numbers that a double holds, or
    quantities; the time is a number. A field that is neither is read by nobody. -/
structure Context (raw : Value) : Prop where
  numbers : ∀ key ∈ ["block", "slot"], ∀ n, raw.get? key = some (.number n) → n.Exact (2 ^ 53)
  quantities : ∀ key ∈ ["block", "slot"], ∀ s, raw.get? key = some (.str s) → HexQuantity s
  time : ∀ n, raw.get? "ts" = some (.number n) → n.Exact (2 ^ 64)

theorem Number.Exact.read {limit : Nat} {n : Number} (exact : n.Exact limit)
    (word : limit ≤ 2 ^ 64) :
    ∃ m : Nat, Rust.Prices.asU64? (.number n) = some m ∧
      Python.Prices.asInt? (.number n) = some (m : Int) ∧
      TypeScript.Prices.parseUintField (.number n) = some (m : Int) := by
  cases n with
  | finite negative magnitude integer integral =>
      obtain ⟨rfl, rfl, small⟩ := exact
      have fits : magnitude.coefficient < 2 ^ 64 := Nat.lt_of_lt_of_le small word
      have whole : TypeScript.Prices.trunc magnitude = magnitude.coefficient :=
        if_pos (integral rfl)
      refine ⟨magnitude.coefficient, ?_, rfl, congrArg (fun n : Nat => some (n : Int)) whole⟩
      show (some magnitude.coefficient).filter (fun m => decide (m < 2 ^ 64)) = _
      rw [Option.filter_some, if_pos (decide_eq_true fits)]
  | zero negative integer =>
      obtain ⟨rfl, rfl⟩ := exact
      exact ⟨0, rfl, rfl, rfl⟩
  | nonfinite => cases exact

end PropAMM.Prices

namespace PropAMM.TypeScript.Overrides

open Text

/-- A hexadecimal digit is no white space. -/
theorem not_isWhiteSpace {c : Char} {d : Nat} (digit : toDigit 16 c = some d) :
    isWhiteSpace c = false := by
  have all : ∀ n : Fin 128, (toDigit 16 (Char.ofNat n)).isSome →
      isWhiteSpace (Char.ofNat n) = false := by
    decide +kernel
  have here := all ⟨c.toNat, ascii_of_toDigit digit⟩
  rw [Char.ofNat_toNat, digit] at here
  exact here rfl

theorem bigIntOfString_hex {s : String} {hex : List Char} {n : Nat}
    (text : s.toList = '0' :: 'x' :: hex) (nonempty : hex ≠ [])
    (value : digitsFrom 16 0 hex = some n) : bigIntOfString s = some (n : Int) := by
  have last : ∃ front c, hex = front ++ [c] := by
    obtain empty | ⟨front, c, whole⟩ := List.eq_nil_or_concat hex
    · exact absurd empty nonempty
    · exact ⟨front, c, whole.trans List.concat_eq_append⟩
  have stripped : ((s.toList.dropWhile isWhiteSpace).reverse.dropWhile isWhiteSpace).reverse =
      '0' :: 'x' :: hex := by
    obtain ⟨front, c, rfl⟩ := last
    obtain ⟨d, digit⟩ := digit_of_mem value c (by simp)
    have zero : isWhiteSpace '0' = false := by decide
    rw [text, List.dropWhile_cons_of_neg (by simp [zero])]
    have back : ('0' :: 'x' :: (front ++ [c])).reverse = c :: ('0' :: 'x' :: front).reverse := by
      simp
    rw [back, List.dropWhile_cons_of_neg (by simp [not_isWhiteSpace digit])]
    simp
  have read : digits 16 hex = some n := by
    unfold digits
    rw [if_neg (by simpa using nonempty), value]
  unfold bigIntOfString
  rw [stripped]
  show (digits 16 hex).map Int.ofNat = _
  rw [read]
  rfl

end PropAMM.TypeScript.Overrides

namespace PropAMM.Prices

open Text

theorem HexQuantity.read {s : String} (quantity : HexQuantity s) (lib : Python.Overrides.Library) :
    ∃ m : Nat, Rust.Prices.parseU64Field (.str s) = some m ∧ Python.Prices.parseU64Field lib
      (.str s) = some (m : Int) ∧
      TypeScript.Prices.parseUintField (.str s) = some (m : Int) := by
  obtain ⟨hex, n, text, nonempty, value, small⟩ := quantity
  have named : s ≠ "" := by
    rintro rfl
    cases text
  have prefixed : stripPrefix0x s = some (String.ofList hex) := by
    unfold stripPrefix0x
    rw [text]
    rfl
  refine ⟨n, ?_, ?_, ?_⟩
  · have unsigned : Rust.u64FromStrRadix 16 (String.ofList hex) = some n := by
      unfold Rust.u64FromStrRadix
      rw [String.toList_ofList]
      dsimp only
      split
      · obtain ⟨d, digit⟩ := digit_of_mem value '+' (by simp)
        cases digit
      · rw [if_neg nonempty, value, Option.filter_some, if_pos (decide_eq_true small)]
    show (match stripPrefix0x s with
      | some hex => Rust.u64FromStrRadix 16 hex
      | none => _) = _
    rw [prefixed]
    exact unsigned
  · show (match stripPrefix0x s with
      | some hex => lib.int 16 hex.toList
      | none => _) = _
    rw [prefixed]
    show lib.int 16 (String.ofList hex).toList = _
    rw [String.toList_ofList]
    exact lib.int_of_digits nonempty value
  · show (if s = "" then none else TypeScript.Overrides.bigIntOfString s) = _
    rw [if_neg named]
    exact TypeScript.Overrides.bigIntOfString_hex text nonempty value

end PropAMM.Prices

namespace PropAMM.Prices

variable {raw : Value} (context : Context raw)

include context

/-- Block and slot are read alike. -/
theorem Context.field_alike (lib : Python.Overrides.Library) {key : String}
    (known : key ∈ ["block", "slot"]) : (raw.get? key).bind (Python.Prices.parseU64Field lib) =
        ((raw.get? key).bind Rust.Prices.parseU64Field).map Int.ofNat ∧
      (raw.get? key).bind TypeScript.Prices.parseUintField =
        ((raw.get? key).bind Rust.Prices.parseU64Field).map Int.ofNat := by
  cases field : raw.get? key with
  | none => exact ⟨rfl, rfl⟩
  | some v =>
      cases v with
      | number n =>
          obtain ⟨m, rust, python, typescript⟩ :=
            (context.numbers key known n field).read (by norm_num)
          have read : Rust.Prices.parseU64Field (.number n) = some m := by
            unfold Rust.Prices.parseU64Field
            rw [rust]
          have named : Python.Prices.parseU64Field lib (.number n) = some (m : Int) := by
            unfold Python.Prices.parseU64Field
            rw [python]
          rw [Option.bind_some, Option.bind_some, Option.bind_some, read, named, typescript]
          exact ⟨rfl, rfl⟩
      | str s =>
          obtain ⟨m, rust, python, typescript⟩ := (context.quantities key known s field).read lib
          rw [Option.bind_some, Option.bind_some, Option.bind_some, rust, python, typescript]
          exact ⟨rfl, rfl⟩
      | _ => exact ⟨rfl, rfl⟩

/-- Rust and Python read the time alike; neither takes it from a text. -/
theorem Context.time_alike :
    (raw.get? "ts").bind Python.Prices.asInt? = ((raw.get? "ts").bind Rust.Prices.asU64?).map
      Int.ofNat := by
  cases field : raw.get? "ts" with
  | none => rfl
  | some v =>
      cases v with
      | number n =>
          obtain ⟨m, rust, python, _⟩ := (context.time n field).read (Nat.le_refl _)
          rw [Option.bind_some, Option.bind_some, rust, python]
          rfl
      | _ => rfl

end PropAMM.Prices

/-! ## Messages -/

namespace PropAMM.Python.Prices

open PropAMM.Prices

variable {lib : Overrides.Library} {checksum : Address → String}
  (checksums : lib.Checksums checksum)

include checksums

theorem parseBooks_alike {crates : Rust.Crates} (reads : crates.ReadsHex)
    {decimals : Dict Address UInt8} {texts : Dict String Int} (same : SameDecimals decimals texts)
    {fields : List (String × Value)} (context : Context (.obj fields)) {books : List Value}
    (published : ∀ book ∈ books, Published book) :
    parseBooks lib texts (.obj fields) books =
      (Rust.Prices.parseBooks crates decimals fields books).named checksum := by
  have injective := checksum_injective checksums
  have folded : books.foldl (addBook lib texts) .empty =
      books.foldl (fun byPamm book => fileNamed Prod.mk checksum byPamm
          (Rust.Prices.parseBook crates decimals book))
        .empty := by
    apply List.foldl_ext
    intro byPamm book member
    unfold addBook
    rw [parseBook_published checksums reads same (published book member)]
    cases Rust.Prices.parseBook crates decimals book <;> rfl
  have apart : Unambiguous Prod.mk (· ∈ Set.range checksum) := by
    intro t u t' u' _ _ _ _ same
    exact Prod.mk.inj same
  have filed : Filed Prod.mk (· ∈ Set.range checksum) (Dict.empty : ByPamm (String × String)) := by
    intro e member
    cases member
  have nothing : listed (Dict.empty : ByPamm (String × String)) =
      List.map (Rust.Prices.PammPriceLevels.named checksum) [] := rfl
  have listed := files_alike injective apart crates decimals books filed nothing
  unfold parseBooks Rust.Prices.parseBooks Rust.Prices.PriceLevelsSnapshot.named
  rw [folded, listed, (context.field_alike lib (by simp : "block" ∈ _)).1,
    (context.field_alike lib (by simp : "slot" ∈ _)).1, context.time_alike]

end PropAMM.Python.Prices

namespace PropAMM.TypeScript.Prices

open Text PropAMM.Prices

theorem toList_pairKey (t u : String) : (pairKey t u).toList = t.toList ++ ':' :: u.toList := by
  unfold pairKey
  rw [String.toList_append, String.toList_append, List.append_assoc]
  rfl

/-- Address texts are of one length, so that the colon stands in one place. -/
theorem pairKey_apart : Unambiguous pairKey (· ∈ Set.range addressText) := by
  rintro t u t' u' ⟨a, rfl⟩ ⟨b, rfl⟩ ⟨a', rfl⟩ ⟨b', rfl⟩ same
  have length : ∀ a : Address, (addressText a).toList.length = 42 := by
    intro a
    rw [addressText, String.toList_ofList, List.length_cons, List.length_cons, length_fixedHex]
  have both := congrArg String.toList same
  rw [toList_pairKey, toList_pairKey] at both
  obtain ⟨front, back⟩ := List.append_inj both (by rw [length, length])
  exact ⟨String.toList_injective front, String.toList_injective (List.cons.inj back).2⟩

/-- JSON numbers are doubles here, so that the time may be another. -/
theorem parseBooks_alike (lib : Overrides.Library) {crates : Rust.Crates} (reads : crates.ReadsHex)
    {decimals : Dict Address UInt8} {texts : Dict String Int} (same : SameDecimals decimals texts)
    {fields message : List (String × Value)} (context : Context (.obj fields))
    (decoded : ∀ key ∈ ["block", "slot"], (Value.obj message).get? key =
      (Value.obj fields).get? key)
    {books : List Value} (published : ∀ book ∈ books, Published book) :
    parseBooks lib texts (.obj message) books =
      some { (Rust.Prices.parseBooks crates decimals fields books).named addressText with
        timestampNs := ((Value.obj message).get? "ts").bind parseUintField } := by
  have folded : ∀ byPamm : ByPamm String, books.foldlM (addBook lib texts) byPamm =
      some (books.foldl (fun byPamm book => fileNamed pairKey addressText byPamm
        (Rust.Prices.parseBook crates decimals book)) byPamm) := by
    induction books with
    | nil => exact fun _ => rfl
    | cons book books ih =>
        intro byPamm
        obtain ⟨first, others⟩ := List.forall_mem_cons.mp published
        have step : addBook lib texts byPamm book =
            some (fileNamed pairKey addressText byPamm
              (Rust.Prices.parseBook crates decimals book)) := by
          unfold addBook
          rw [parseBook_published lib reads same first]
          cases Rust.Prices.parseBook crates decimals book <;> rfl
        rw [List.foldlM_cons, step, List.foldl_cons]
        exact ih others _
  have filed : Filed pairKey (· ∈ Set.range addressText) (Dict.empty : ByPamm String) := by
    intro e member
    cases member
  have nothing : listed (Dict.empty : ByPamm String) =
      List.map (Rust.Prices.PammPriceLevels.named addressText) [] := rfl
  have listed := files_alike addressText_injective pairKey_apart crates decimals books filed nothing
  let anyLibrary : Python.Overrides.Library := ⟨id, fun _ => none, fun _ => false, fun _ => none⟩
  unfold parseBooks Rust.Prices.parseBooks Rust.Prices.PriceLevelsSnapshot.named
  rw [folded, Option.map_some, listed, decoded "block" (by simp), decoded "slot" (by simp),
    (context.field_alike anyLibrary (by simp : "block" ∈ _)).2,
    (context.field_alike anyLibrary (by simp : "slot" ∈ _)).2]

/-- A pair is found by any text of its addresses. -/
theorem findPair_named (lib : Overrides.Library) (pamms : List Rust.Prices.PammPriceLevels)
    {block slot time : Option Int} {pamm tokenIn tokenOut : String} {a b c : Address}
    (venue : address? pamm = some a)
    (from_token : address? tokenIn = some b) (to_token : address? tokenOut = some c) :
    findPair lib ⟨block, slot, time, pamms.map (Rust.Prices.PammPriceLevels.named addressText)⟩ pamm
      tokenIn tokenOut =
      (Rust.Prices.pairAt pamms a b c).map (Rust.Prices.PairPriceLevels.named addressText) := by
  unfold findPair Rust.Prices.pairAt Keyed.at?
  simp only [lib.lower_address venue, lib.lower_address from_token, lib.lower_address to_token,
    List.find?_map]
  have group :
      ((fun entry : PropAMM.Prices.PammPriceLevels => decide (entry.pamm = addressText a)) ∘
      Rust.Prices.PammPriceLevels.named addressText) = fun entry => decide (entry.pamm = a) := by
    funext entry
    simp only [Function.comp_def, Rust.Prices.PammPriceLevels.named, addressText_injective.eq_iff]
  rw [group]
  cases pamms.find? fun entry => decide (entry.pamm = a) with
  | none => rfl
  | some entry =>
      have pair : ((fun pair : PropAMM.Prices.PairPriceLevels =>
          decide (pair.tokenIn = addressText b) && decide (pair.tokenOut = addressText c)) ∘
            Rust.Prices.PairPriceLevels.named addressText) =
          fun pair => decide (pair.direction = (b, c)) := by
        funext pair
        simp only [Function.comp_def, Rust.Prices.PairPriceLevels.named,
          Rust.Prices.PairPriceLevels.direction, addressText_injective.eq_iff, Prod.mk.injEq,
          Bool.decide_and]
      rw [Option.map_some, Option.bind_some, Option.bind_some, Rust.Prices.PammPriceLevels.named,
        List.find?_map, pair]

end PropAMM.TypeScript.Prices

namespace PropAMM.Prices

open Text

/-- The three SDKs read a message of books alike: what Rust files by address, Python files
    under checksummed texts and TypeScript under lowered ones, in the same order. The time is
    whatever double TypeScript's decoder makes of it. Its lookup finds, by any text of an
    address, what Rust holds for it. -/
theorem books_read_alike {crates : Rust.Crates} (reads : crates.ReadsHex)
    {python : Python.Overrides.Library} {checksum : Address → String}
    (checksums : python.Checksums checksum) (typescript : TypeScript.Overrides.Library)
    (extras : Extras) {fields message : List (String × Value)} (context : Context (.obj fields))
    (decoded : ∀ key ∈ ["block", "slot"],
      (Value.obj message).get? key = (Value.obj fields).get? key)
    {books : List Value} (published : ∀ book ∈ books, Published book) :
    let snapshot :=
      Rust.Prices.parseBooks crates (Rust.Prices.decimalsTable extras.byAddress) fields books
    let named : PriceLevelsSnapshot := { snapshot.named addressText with
      timestampNs := ((Value.obj message).get? "ts").bind TypeScript.Prices.parseUintField }
    (Python.Prices.decimalsTable python extras.byText).map
        (fun decimals => Python.Prices.parseBooks python decimals (.obj fields) books) =
          .ok (snapshot.named checksum) ∧
      (TypeScript.Prices.decimalsTable typescript extras.byText).map
        (fun decimals => TypeScript.Prices.parseBooks typescript decimals (.obj message) books) =
          .ok (some named) ∧
      ∀ {pamm tokenIn tokenOut : String} {a b c : Address}, address? pamm = some a →
        address? tokenIn = some b → address? tokenOut = some c →
        TypeScript.Prices.findPair typescript named pamm tokenIn tokenOut =
          (Rust.Prices.pairAt snapshot.pamms a b c).map
            (Rust.Prices.PairPriceLevels.named addressText) := by
  intro snapshot named
  obtain ⟨texts, table, same⟩ := Python.Prices.decimalsTable_extras python extras
  obtain ⟨texts', table', same'⟩ := TypeScript.Prices.decimalsTable_extras typescript extras
  refine ⟨?_, ?_, ?_⟩
  · rw [table]
    exact congrArg Except.ok (Python.Prices.parseBooks_alike checksums reads same context published)
  · rw [table']
    exact congrArg Except.ok
      (TypeScript.Prices.parseBooks_alike typescript reads same' context decoded published)
  · intro pamm tokenIn tokenOut a b c venue from_token to_token
    exact TypeScript.Prices.findPair_named typescript snapshot.pamms venue from_token to_token

end PropAMM.Prices

namespace PropAMM.Prices

open Text

/-- Checksummed texts of the sample's addresses. -/
def checksumSample (a : Address) : String :=
  if a = 0xC02aaA39b223FE8D0A0e5C4F27eAD9083C756Cc2 then
    "0xC02aaA39b223FE8D0A0e5C4F27eAD9083C756Cc2"
  else if a = 0xA0b86991c6218b36c1d19D4a2e9Eb0cE3606eB48 then
    "0xA0b86991c6218b36c1d19D4a2e9Eb0cE3606eB48"
  else if a = metric then "0x99Ab7c1C5eab47801F7937075998527a550fbA8a"
  else addressText a

def pythonSample : Python.Overrides.Library :=
  ⟨id, fun _ => none, fun _ => false, fun s => (address? s).map checksumSample⟩

theorem checksums_pythonSample : pythonSample.Checksums checksumSample where
  reads s a named := congrArg (Option.map checksumSample) named
  named a := by
    unfold checksumSample
    split
    · rename_i weth
      rw [weth]
      decide +kernel
    · split
      · rename_i usdc
        rw [usdc]
        decide +kernel
      · split
        · rename_i venue
          rw [venue]
          decide +kernel
        · exact address?_addressText a

theorem unrounded_rungSample : rungSample.Unrounded := by
  intro key known n field
  simp only [List.mem_cons, List.not_mem_nil, or_false] at known
  rcases known with rfl | rfl
  · cases field
    exact nofun
  · cases field
    exact nofun

/-- Titan's book of WETH in USDC, under one of Metric's quote addresses. -/
def bookSample : Value := .obj [
  ("quoteAddress", .str "0x30a88bf894d1b806125a23ebf23d715496fd7102"),
  ("token1Address", .str "0xC02aaA39b223FE8D0A0e5C4F27eAD9083C756Cc2"),
  ("token2Address", .str "0xa0b86991c6218b36c1d19d4a2e9eb0ce3606eb48"),
  ("bids", .arr ([rungSample].map Rung.entry)), ("asks", .arr [])]

theorem published_bookSample : Published bookSample := by
  constructor
  · intro key known s field
    simp only [List.mem_cons, List.not_mem_nil, or_false] at known
    rcases known with rfl | rfl | rfl
    · cases field
      exact ⟨0x30a88bf894d1b806125a23ebf23d715496fd7102, by decide +kernel⟩
    · cases field
      exact ⟨0xC02aaA39b223FE8D0A0e5C4F27eAD9083C756Cc2, by decide +kernel⟩
    · cases field
      exact ⟨0xA0b86991c6218b36c1d19D4a2e9Eb0cE3606eB48, by decide +kernel⟩
  · intro key known items field
    simp only [List.mem_cons, List.not_mem_nil, or_false] at known
    rcases known with rfl | rfl
    · cases field
      exact ⟨[rungSample], List.forall_mem_singleton.mpr unrounded_rungSample, rfl⟩
    · cases field
      exact ⟨[], nofun, rfl⟩

def contextSample : List (String × Value) :=
  [("slot", .str "0xb5c3d1"),
    ("ts", .number (.finite false ⟨9007199254740993, 0, by decide⟩ true (by decide)))]

/-- What a double makes of the time. -/
def decodedSample : List (String × Value) :=
  [("slot", .str "0xb5c3d1"),
    ("ts", .number (.finite false ⟨9007199254740992, 0, by decide⟩ true (by decide)))]

theorem books_read_alike_sample :
    let weth : Address := 0xC02aaA39b223FE8D0A0e5C4F27eAD9083C756Cc2
    let usdc : Address := 0xA0b86991c6218b36c1d19D4a2e9Eb0cE3606eB48
    let snapshot : Rust.Prices.PriceLevelsSnapshot :=
      ⟨none, some 11912145, some 9007199254740993,
        [⟨metric, [⟨weth, usdc, [⟨1500000000000000000, 4687500000⟩]⟩]⟩]⟩
    let typescript : TypeScript.Overrides.Library := ⟨id, some⟩
    (Python.Prices.decimalsTable pythonSample (Extras.byText ⟨[], List.nodup_nil⟩)).map
        (fun decimals => Python.Prices.parseBooks pythonSample decimals (.obj contextSample)
          [bookSample]) =
      .ok (snapshot.named checksumSample) ∧
    (TypeScript.Prices.decimalsTable typescript (Extras.byText ⟨[], List.nodup_nil⟩)).map
        (fun decimals => TypeScript.Prices.parseBooks typescript decimals (.obj decodedSample)
          [bookSample]) =
      .ok (some { snapshot.named addressText with timestampNs := some 9007199254740992 }) := by
  intro weth usdc snapshot typescript
  have context : Context (.obj contextSample) := by
    constructor
    · intro key known n field
      simp only [List.mem_cons, List.not_mem_nil, or_false] at known
      rcases known with rfl | rfl <;> cases field
    · intro key known s field
      simp only [List.mem_cons, List.not_mem_nil, or_false] at known
      rcases known with rfl | rfl
      · cases field
      · cases field
        exact ⟨"b5c3d1".toList, 11912145, by decide, by decide, by decide, by decide⟩
    · intro n field
      cases field
      exact ⟨rfl, rfl, by decide⟩
  have decoded : ∀ key ∈ ["block", "slot"], (Value.obj decodedSample).get? key =
      (Value.obj contextSample).get? key := by
    intro key known
    simp only [List.mem_cons, List.not_mem_nil, or_false] at known
    rcases known with rfl | rfl <;> rfl
  have published : ∀ book ∈ [bookSample], Published book := by
    intro book member
    rw [List.mem_singleton.mp member]
    exact published_bookSample
  have alike := books_read_alike Rust.Crates.documented_readsHex checksums_pythonSample typescript
    ⟨[], List.nodup_nil⟩ context decoded published
  have evaluated : Rust.Prices.parseBooks Rust.Crates.documented
      (Rust.Prices.decimalsTable (Extras.byAddress ⟨[], List.nodup_nil⟩))
        contextSample [bookSample] = snapshot := by
    decide +kernel
  rw [evaluated] at alike
  exact ⟨alike.1, alike.2.1⟩

end PropAMM.Prices
