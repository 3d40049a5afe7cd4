import PropAMM.Lib.Keyed
import PropAMM.Sdk.PriceRungs
import PropAMM.Sdk.RustOverrides

/-! # The Rust SDK's price books

The parser of a v2 payload. Each book prices two directions at the venue that its quote
address stands for, and of the sides that price one direction there the first is kept.
-/

namespace PropAMM.Rust.Prices

open PropAMM.Prices

/-- The order book of one direction. A v2 rung names no variant. -/
structure PairPriceLevels where
  tokenIn : Address
  tokenOut : Address
  orderBook : List PriceLevel
  deriving DecidableEq

structure PammPriceLevels where
  pamm : Address
  pairs : List PairPriceLevels
  deriving DecidableEq

structure PriceLevelsSnapshot where
  blockNumber : Option Nat
  slot : Option Nat
  timestampNs : Option Nat
  pamms : List PammPriceLevels
  deriving DecidableEq

/-- `Value::as_u64`, which takes an integer literal only. -/
def asU64? : Value → Option Nat
  | .number (.finite false magnitude true _) => some magnitude.coefficient |>.filter (· < 2 ^ 64)
  | .number (.zero false true) => some 0
  | _ => none

def parseU64Field (value : Value) : Option Nat :=
  match asU64? value with
  | some number => some number
  | none => value.asStr?.bind fun text =>
    match Text.stripPrefix0x text with
    | some hex => u64FromStrRadix 16 hex
    | none => u64FromStrRadix 10 text

/-- A book with its addresses read and both tokens' decimals known. -/
structure Book where
  quoteAddress : Address
  token1 : Address
  token2 : Address
  bids : List PriceLevel
  asks : List PriceLevel

namespace Book

def venue (b : Book) : Address := venueForQuoteAddress b.quoteAddress

/-- Bids sell token1, asks sell token2. -/
def sides (b : Book) : List PairPriceLevels :=
  [{ tokenIn := b.token1, tokenOut := b.token2, orderBook := b.bids },
    { tokenIn := b.token2, tokenOut := b.token1, orderBook := b.asks }]

end Book

/-- One side of a book, kept where it has rungs and its direction is not priced yet. -/
def addSide (pairs : List PairPriceLevels) (side : PairPriceLevels) : List PairPriceLevels :=
  let present := pairs.any fun p => p.tokenIn = side.tokenIn && p.tokenOut = side.tokenOut
  if !side.orderBook.isEmpty && !present then pairs ++ [side] else pairs

/-- The sides of a book, filed in a group. -/
def Book.fileIn (b : Book) (group : PammPriceLevels) : PammPriceLevels :=
  { group with pairs := b.sides.foldl addSide group.pairs }

/-- The book goes to its venue's group, or to an empty one pushed for it. -/
def Book.addTo (b : Book) (pamms : List PammPriceLevels) : List PammPriceLevels :=
  Keyed.updateAt PammPriceLevels.pamm b.venue { pamm := b.venue, pairs := [] } b.fileIn pamms

section Parser

variable (crates : Crates) (decimals : Dict Address UInt8)

def address (book : Value) (key : String) : Option Address :=
  ((book.get? key).bind Value.asStr?).bind fun s => (crates.parseAddress s).toOption

/-- `none` where the loop over the books continues. -/
def parseBook (book : Value) : Option Book := do
  let quoteAddress ← address crates book "quoteAddress"
  let token1 ← address crates book "token1Address"
  let token2 ← address crates book "token2Address"
  let d1 ← decimals.get? token1
  let d2 ← decimals.get? token2
  some {
    quoteAddress, token1, token2
    bids := bids (book.get? "bids") d1.toNat d2.toNat
    asks := asks (book.get? "asks") d1.toNat d2.toNat }

def addBook (pamms : List PammPriceLevels) (book : Value) : List PammPriceLevels :=
  match parseBook crates decimals book with
  | none => pamms
  | some b => b.addTo pamms

def parseBooks (object : List (String × Value)) (books : List Value) : PriceLevelsSnapshot where
  blockNumber := ((Value.obj object).get? "block").bind parseU64Field
  slot := ((Value.obj object).get? "slot").bind parseU64Field
  timestampNs := ((Value.obj object).get? "ts").bind asU64?
  pamms := books.foldl (addBook crates decimals) []

end Parser

/-! ## What is kept -/

/-- A venue's group prices the direction by this order book. -/
def Priced (pamms : List PammPriceLevels) (venue tokenIn tokenOut : Address)
    (orderBook : List PriceLevel) : Prop :=
  ∃ p ∈ pamms, p.pamm = venue ∧
    ∃ q ∈ p.pairs, q.tokenIn = tokenIn ∧ q.tokenOut = tokenOut ∧ q.orderBook = orderBook

/-- A book that can be filed: all three addresses are read and both tokens' decimals known. -/
structure WellFormed (crates : Crates) (decimals : Dict Address UInt8) (book : Value)
    (quoteAddress token1 token2 : Address) (d1 d2 : UInt8) : Prop where
  quoted : address crates book "quoteAddress" = some quoteAddress
  first : address crates book "token1Address" = some token1
  second : address crates book "token2Address" = some token2
  known1 : decimals.get? token1 = some d1
  known2 : decimals.get? token2 = some d2

/-- The surviving rungs of a well-formed book's bids, which sell its token1. There are some. -/
def BidsPrice (crates : Crates) (decimals : Dict Address UInt8) (book : Value)
    (venue tokenIn tokenOut : Address) (orderBook : List PriceLevel) : Prop :=
  ∃ quoteAddress d1 d2, WellFormed crates decimals book quoteAddress tokenIn tokenOut d1 d2
    ∧ venueForQuoteAddress quoteAddress = venue
    ∧ orderBook = bids (book.get? "bids") d1.toNat d2.toNat ∧ orderBook ≠ []

/-- The surviving rungs of its asks, which sell its token2. -/
def AsksPrice (crates : Crates) (decimals : Dict Address UInt8) (book : Value)
    (venue tokenIn tokenOut : Address) (orderBook : List PriceLevel) : Prop :=
  ∃ quoteAddress d1 d2, WellFormed crates decimals book quoteAddress tokenOut tokenIn d1 d2
    ∧ venueForQuoteAddress quoteAddress = venue
    ∧ orderBook = asks (book.get? "asks") d1.toNat d2.toNat ∧ orderBook ≠ []

/-- The sides a book offers, by venue; none where it is not well formed. -/
def offered (crates : Crates) (decimals : Dict Address UInt8) (book : Value) :
    List (Address × PairPriceLevels) :=
  match parseBook crates decimals book with
  | none => []
  | some b => b.sides.map fun side => (b.venue, side)

/-- The first of the sides that prices the direction at the venue. -/
def firstPriced (venue tokenIn tokenOut : Address) (sides : List (Address × PairPriceLevels)) :
    Option PairPriceLevels :=
  (sides.find? fun s =>
    s.1 = venue ∧ s.2.tokenIn = tokenIn ∧ s.2.tokenOut = tokenOut ∧ s.2.orderBook ≠ []).map Prod.snd

def PairPriceLevels.direction (p : PairPriceLevels) : Address × Address := (p.tokenIn, p.tokenOut)

/-- What a parser's list of pairs always is. -/
structure Grouped (pairs : List PairPriceLevels) : Prop where
  once : (pairs.map PairPriceLevels.direction).Nodup
  priced : ∀ q ∈ pairs, q.orderBook ≠ []
  paid : ∀ q ∈ pairs, ∀ l ∈ q.orderBook, 0 < l.amountIn

/-! ## One book -/

theorem pos_of_mem_levels {rungs : List (Decimal × Decimal)} {decimalsIn decimalsOut : Nat}
    {l : PriceLevel} (member : l ∈ levels rungs decimalsIn decimalsOut) : 0 < l.amountIn := by
  obtain ⟨r, _, kept⟩ := List.mem_filterMap.mp member
  unfold level at kept
  obtain ⟨amountIn, taken, kept⟩ := Option.bind_eq_some_iff.mp kept
  obtain ⟨amountOut, _, kept⟩ := Option.bind_eq_some_iff.mp kept
  cases kept
  have nonzero := (Option.filter_eq_some_iff.mp taken).2
  exact Nat.pos_of_ne_zero (by simpa using nonzero)

theorem parseBook_eq_some_iff {crates : Crates} {decimals : Dict Address UInt8}
    {book : Value} {b : Book} : parseBook crates decimals book = some b
      ↔ ∃ d1 d2, WellFormed crates decimals book b.quoteAddress b.token1 b.token2 d1 d2
        ∧ b.bids = bids (book.get? "bids") d1.toNat d2.toNat
        ∧ b.asks = asks (book.get? "asks") d1.toNat d2.toNat := by
  constructor
  · intro parsed
    obtain ⟨quoteAddress, quoted, parsed⟩ := Option.bind_eq_some_iff.mp parsed
    obtain ⟨token1, first, parsed⟩ := Option.bind_eq_some_iff.mp parsed
    obtain ⟨token2, second, parsed⟩ := Option.bind_eq_some_iff.mp parsed
    obtain ⟨d1, known1, parsed⟩ := Option.bind_eq_some_iff.mp parsed
    obtain ⟨d2, known2, parsed⟩ := Option.bind_eq_some_iff.mp parsed
    cases parsed
    exact ⟨d1, d2, ⟨quoted, first, second, known1, known2⟩, rfl, rfl⟩
  · rintro ⟨d1, d2, wellFormed, kept1, kept2⟩
    simp only [parseBook, wellFormed.quoted, wellFormed.first, wellFormed.second, wellFormed.known1,
      wellFormed.known2, Option.bind_eq_bind, Option.bind_some, ← kept1, ← kept2]

theorem parseBook_paid {crates : Crates} {decimals : Dict Address UInt8} {book : Value} {b : Book}
    (parsed : parseBook crates decimals book = some b) :
    ∀ side ∈ b.sides, ∀ l ∈ side.orderBook, 0 < l.amountIn := by
  obtain ⟨d1, d2, _, bids, asks⟩ := parseBook_eq_some_iff.mp parsed
  intro side member l rung
  rcases List.mem_cons.mp member with rfl | member
  · rw [bids] at rung
    exact pos_of_mem_levels rung
  · cases List.mem_singleton.mp member
    rw [asks] at rung
    exact pos_of_mem_levels rung

section Sides

variable {crates : Crates} {decimals : Dict Address UInt8} {book : Value}
  {venue tokenIn tokenOut : Address} {orderBook : List PriceLevel}

theorem bidsPrice_iff : BidsPrice crates decimals book venue tokenIn tokenOut orderBook
    ↔ ∃ b, parseBook crates decimals book = some b ∧ b.bids = orderBook
      ∧ b.venue = venue ∧ b.token1 = tokenIn ∧ b.token2 = tokenOut ∧ b.bids ≠ [] := by
  simp only [parseBook_eq_some_iff]
  constructor
  · rintro ⟨quoteAddress, d1, d2, wellFormed, at_venue, rfl, some_left⟩
    exact ⟨⟨quoteAddress, tokenIn, tokenOut, _, _⟩, ⟨d1, d2, wellFormed, rfl, rfl⟩, rfl, at_venue,
      rfl, rfl, some_left⟩
  · rintro ⟨b, ⟨d1, d2, wellFormed, bids, _⟩, rfl, at_venue, rfl, rfl, some_left⟩
    exact ⟨b.quoteAddress, d1, d2, wellFormed, at_venue, bids, some_left⟩

theorem asksPrice_iff : AsksPrice crates decimals book venue tokenIn tokenOut orderBook
    ↔ ∃ b, parseBook crates decimals book = some b ∧ b.asks = orderBook
      ∧ b.venue = venue ∧ b.token2 = tokenIn ∧ b.token1 = tokenOut ∧ b.asks ≠ [] := by
  simp only [parseBook_eq_some_iff]
  constructor
  · rintro ⟨quoteAddress, d1, d2, wellFormed, at_venue, rfl, some_left⟩
    exact ⟨⟨quoteAddress, tokenOut, tokenIn, _, _⟩, ⟨d1, d2, wellFormed, rfl, rfl⟩, rfl, at_venue,
      rfl, rfl, some_left⟩
  · rintro ⟨b, ⟨d1, d2, wellFormed, _, asks⟩, rfl, at_venue, rfl, rfl, some_left⟩
    exact ⟨b.quoteAddress, d1, d2, wellFormed, at_venue, asks, some_left⟩

/-- Of the sides a book offers, the bids are the first. -/
theorem firstPriced_offered_iff :
    (firstPriced venue tokenIn tokenOut (offered crates decimals book)).map
      PairPriceLevels.orderBook = some orderBook
      ↔ BidsPrice crates decimals book venue tokenIn tokenOut orderBook
        ∨ (∀ other, ¬ BidsPrice crates decimals book venue tokenIn tokenOut other)
          ∧ AsksPrice crates decimals book venue tokenIn tokenOut orderBook := by
  simp only [bidsPrice_iff, asksPrice_iff]
  unfold offered firstPriced
  cases parsed : parseBook crates decimals book with
  | none => simp
  | some b =>
      simp only [Option.some.injEq, exists_eq_left', Book.sides, List.map_cons, List.map_nil]
      by_cases bid : b.venue = venue ∧ b.token1 = tokenIn ∧ b.token2 = tokenOut ∧ b.bids ≠ []
      · rw [List.find?_cons_of_pos (by exact decide_eq_true bid)]
        simp [bid]
      · rw [List.find?_cons_of_neg (by rw [decide_eq_true_iff]; exact bid)]
        simp only [bid, and_false, false_or, not_false_eq_true, implies_true, true_and]
        by_cases ask : b.venue = venue ∧ b.token2 = tokenIn ∧ b.token1 = tokenOut ∧ b.asks ≠ []
        · rw [List.find?_cons_of_pos (by exact decide_eq_true ask)]
          simp [ask]
        · rw [List.find?_cons_of_neg (by rw [decide_eq_true_iff]; exact ask)]
          simp [ask]

theorem exists_firstPriced_offered_iff :
    (∃ orderBook, (firstPriced venue tokenIn tokenOut (offered crates decimals book)).map
        PairPriceLevels.orderBook = some orderBook)
      ↔ ∃ orderBook, BidsPrice crates decimals book venue tokenIn tokenOut orderBook
        ∨ AsksPrice crates decimals book venue tokenIn tokenOut orderBook := by
  simp only [firstPriced_offered_iff]
  constructor
  · rintro ⟨orderBook, bid | ⟨_, ask⟩⟩
    · exact ⟨orderBook, .inl bid⟩
    · exact ⟨orderBook, .inr ask⟩
  · rintro ⟨orderBook, side⟩
    by_cases bids : ∃ other, BidsPrice crates decimals book venue tokenIn tokenOut other
    · obtain ⟨other, bid⟩ := bids
      exact ⟨other, .inl bid⟩
    · have no_bids := not_exists.mp bids
      exact ⟨orderBook, .inr ⟨no_bids, side.resolve_left (no_bids orderBook)⟩⟩

theorem firstPriced_offered_eq_none_iff :
    (firstPriced venue tokenIn tokenOut (offered crates decimals book)).map
      PairPriceLevels.orderBook = none
      ↔ ∀ other, ¬ BidsPrice crates decimals book venue tokenIn tokenOut other
        ∧ ¬ AsksPrice crates decimals book venue tokenIn tokenOut other := by
  rw [← Option.not_isSome_iff_eq_none, Option.isSome_iff_exists, exists_firstPriced_offered_iff,
    not_exists]
  simp only [not_or]

end Sides

/-- The sides of a book are pushed, those without rungs left out. -/
theorem foldl_addSide (sides pairs : List PairPriceLevels) :
    sides.foldl addSide pairs
      = Keyed.pushAll PairPriceLevels.direction pairs
        (sides.filter fun s => !s.orderBook.isEmpty) := by
  rw [Keyed.pushAll, List.foldl_filter]
  congr 1
  funext pairs side
  unfold addSide Keyed.pushNew
  have present : (pairs.any fun p => decide (p.direction = side.direction))
      = pairs.any fun p => p.tokenIn = side.tokenIn && p.tokenOut = side.tokenOut := by
    simp [PairPriceLevels.direction]
  rw [present]
  cases side.orderBook.isEmpty <;>
    cases pairs.any fun p => p.tokenIn = side.tokenIn && p.tokenOut = side.tokenOut <;> rfl

theorem Grouped.foldl_addSide {pairs sides : List PairPriceLevels} (grouped : Grouped pairs)
    (paid : ∀ side ∈ sides, ∀ l ∈ side.orderBook, 0 < l.amountIn) :
    Grouped (sides.foldl addSide pairs) := by
  rw [Prices.foldl_addSide]
  refine ⟨Keyed.nodup_pushAll grouped.once _, ?_, ?_⟩
  · intro q member
    rcases Keyed.mem_pushAll member with before | pushed
    · exact grouped.priced q before
    · simpa using (List.mem_filter.mp pushed).2
  · intro q member
    rcases Keyed.mem_pushAll member with before | pushed
    · exact grouped.paid q before
    · exact paid q (List.mem_filter.mp pushed).1

/-! ## All books -/

/-- Venues stand once, and each one's directions. -/
structure WellGrouped (pamms : List PammPriceLevels) : Prop where
  once : (pamms.map PammPriceLevels.pamm).Nodup
  grouped : ∀ p ∈ pamms, Grouped p.pairs

/-- What the snapshot holds for a direction at a venue. -/
def pairAt (pamms : List PammPriceLevels) (venue tokenIn tokenOut : Address) :
    Option PairPriceLevels :=
  (Keyed.at? PammPriceLevels.pamm pamms venue).bind fun p =>
    Keyed.at? PairPriceLevels.direction p.pairs (tokenIn, tokenOut)

theorem priced_iff_pairAt {pamms : List PammPriceLevels} (wellGrouped : WellGrouped pamms)
    (venue tokenIn tokenOut : Address) (orderBook : List PriceLevel) :
    Priced pamms venue tokenIn tokenOut orderBook
      ↔ ∃ q, pairAt pamms venue tokenIn tokenOut = some q ∧ q.orderBook = orderBook := by
  constructor
  · rintro ⟨p, member, rfl, q, pair, rfl, rfl, kept⟩
    refine ⟨q, Option.bind_eq_some_iff.mpr ⟨p, ?_, ?_⟩, kept⟩
    · exact (Keyed.at?_eq_some_iff wellGrouped.once).mpr ⟨member, rfl⟩
    · exact (Keyed.at?_eq_some_iff (wellGrouped.grouped p member).once).mpr ⟨pair, rfl⟩
  · rintro ⟨q, found, kept⟩
    obtain ⟨p, group, found⟩ := Option.bind_eq_some_iff.mp found
    obtain ⟨member, named⟩ := (Keyed.at?_eq_some_iff wellGrouped.once).mp group
    obtain ⟨pair, direction⟩ := (Keyed.at?_eq_some_iff (wellGrouped.grouped p member).once).mp found
    exact ⟨p, member, named, q, pair, congrArg Prod.fst direction, congrArg Prod.snd direction,
      kept⟩

theorem firstPriced_append (venue tokenIn tokenOut : Address)
    (sides sides' : List (Address × PairPriceLevels)) :
    firstPriced venue tokenIn tokenOut (sides ++ sides')
      = (firstPriced venue tokenIn tokenOut sides).or
        (firstPriced venue tokenIn tokenOut sides') := by
  unfold firstPriced
  rw [List.find?_append, Option.map_or]

theorem firstPriced_here (venue tokenIn tokenOut : Address) (sides : List PairPriceLevels) :
    firstPriced venue tokenIn tokenOut (sides.map fun side => (venue, side))
      = Keyed.at? PairPriceLevels.direction (sides.filter fun s => !s.orderBook.isEmpty)
        (tokenIn, tokenOut) := by
  unfold firstPriced Keyed.at?
  rw [List.find?_map, Option.map_map, List.find?_filter]
  have same : ∀ s : PairPriceLevels,
      (s.tokenIn = tokenIn ∧ s.tokenOut = tokenOut ∧ s.orderBook ≠ [])
        ↔ (!s.orderBook.isEmpty) = true ∧ decide (s.direction = (tokenIn, tokenOut)) = true := by
    intro s
    cases empty : s.orderBook with
    | nil => simp
    | cons l ls => simp [PairPriceLevels.direction]
  simp only [Function.comp_def, Option.map_id_fun', id, true_and, same]

theorem firstPriced_elsewhere {venue other tokenIn tokenOut : Address} (elsewhere : other ≠ venue)
    (sides : List PairPriceLevels) :
    firstPriced venue tokenIn tokenOut (sides.map fun side => (other, side)) = none := by
  unfold firstPriced
  rw [Option.map_eq_none_iff, List.find?_eq_none]
  intro s member
  obtain ⟨side, _, rfl⟩ := List.mem_map.mp member
  simp [elsewhere]

theorem WellGrouped.addTo {pamms : List PammPriceLevels} (wellGrouped : WellGrouped pamms)
    {b : Book} (paid : ∀ side ∈ b.sides, ∀ l ∈ side.orderBook, 0 < l.amountIn) :
    WellGrouped (b.addTo pamms) := by
  unfold Book.addTo
  constructor
  · apply Keyed.nodup_updateAt
    · rfl
    · intro group named
      exact named
    · exact wellGrouped.once
  · apply Keyed.forall_updateAt wellGrouped.grouped
    · have empty : Grouped [] := ⟨List.nodup_nil, by simp, by simp⟩
      exact empty.foldl_addSide paid
    · intro group grouped
      exact grouped.foldl_addSide paid

/-- A book adds what it is the first to price. -/
theorem pairAt_addTo (b : Book) (pamms : List PammPriceLevels) (venue tokenIn tokenOut : Address) :
    pairAt (b.addTo pamms) venue tokenIn tokenOut
      = (pairAt pamms venue tokenIn tokenOut).or
          (firstPriced venue tokenIn tokenOut (b.sides.map fun side => (b.venue, side))) := by
  have at_venue : Keyed.at? PammPriceLevels.pamm (b.addTo pamms) venue =
      if b.venue = venue then
        some (b.fileIn ((Keyed.at? PammPriceLevels.pamm pamms b.venue).getD
          { pamm := b.venue, pairs := [] }))
      else Keyed.at? PammPriceLevels.pamm pamms venue := by
    apply Keyed.at?_updateAt
    · rfl
    · intro group named
      exact named
  unfold pairAt
  rw [at_venue]
  by_cases here : b.venue = venue
  · subst here
    rw [if_pos rfl, Option.bind_some, Book.fileIn, foldl_addSide, Keyed.at?_pushAll,
      Keyed.at?_append, firstPriced_here]
    cases Keyed.at? PammPriceLevels.pamm pamms b.venue <;> rfl
  · rw [if_neg here, firstPriced_elsewhere here, Option.or_none]

section Parser

variable (crates : Crates) (decimals : Dict Address UInt8)

theorem WellGrouped.addBook {pamms : List PammPriceLevels} (wellGrouped : WellGrouped pamms)
    (book : Value) : WellGrouped (addBook crates decimals pamms book) := by
  unfold Prices.addBook
  cases parsed : parseBook crates decimals book with
  | none => exact wellGrouped
  | some b => exact wellGrouped.addTo (parseBook_paid parsed)

theorem pairAt_addBook (pamms : List PammPriceLevels) (book : Value)
    (venue tokenIn tokenOut : Address) :
    pairAt (addBook crates decimals pamms book) venue tokenIn tokenOut
      = (pairAt pamms venue tokenIn tokenOut).or
          (firstPriced venue tokenIn tokenOut (offered crates decimals book)) := by
  unfold addBook offered
  cases parseBook crates decimals book with
  | none => exact Option.or_none.symm
  | some b => exact pairAt_addTo b pamms venue tokenIn tokenOut

theorem WellGrouped.foldl_addBook {pamms : List PammPriceLevels} (wellGrouped : WellGrouped pamms)
    (books : List Value) : WellGrouped (books.foldl (Prices.addBook crates decimals) pamms) := by
  induction books generalizing pamms with
  | nil => exact wellGrouped
  | cons book books ih => exact ih (wellGrouped.addBook crates decimals book)

theorem pairAt_foldl_addBook (pamms : List PammPriceLevels) (books : List Value)
    (venue tokenIn tokenOut : Address) :
    pairAt (books.foldl (addBook crates decimals) pamms) venue tokenIn tokenOut
      = (pairAt pamms venue tokenIn tokenOut).or
          (firstPriced venue tokenIn tokenOut (books.flatMap (offered crates decimals))) := by
  induction books generalizing pamms with
  | nil => exact Option.or_none.symm
  | cons book books ih =>
      rw [List.foldl_cons, ih, pairAt_addBook, Option.or_assoc, List.flatMap_cons,
        firstPriced_append]

theorem firstPriced_books (books : List Value) (venue tokenIn tokenOut : Address) :
    (firstPriced venue tokenIn tokenOut (books.flatMap (offered crates decimals))).map
      PairPriceLevels.orderBook = books.findSome? fun book =>
          (firstPriced venue tokenIn tokenOut (offered crates decimals book)).map
            PairPriceLevels.orderBook := by
  unfold firstPriced
  rw [List.find?_flatMap, Option.map_map, List.map_findSome?]
  congr 1
  funext book
  exact (Option.map_map _ _ _).symm

/-- Every venue and every direction in it stands once, with rungs that all take an input. What
    is priced is what some well-formed book prices, by the surviving rungs of the first side
    that has any. -/
theorem parseBooks_lossless (object : List (String × Value)) (books : List Value) :
    let pamms := (parseBooks crates decimals object books).pamms
    (pamms.map PammPriceLevels.pamm).Nodup
      ∧ (∀ p ∈ pamms, (p.pairs.map PairPriceLevels.direction).Nodup
          ∧ ∀ q ∈ p.pairs, q.orderBook ≠ [] ∧ ∀ l ∈ q.orderBook, 0 < l.amountIn)
      ∧ ∀ venue tokenIn tokenOut,
          let bidsPrice := fun book => BidsPrice crates decimals book venue tokenIn tokenOut
          let asksPrice := fun book => AsksPrice crates decimals book venue tokenIn tokenOut
          (∀ orderBook, Priced pamms venue tokenIn tokenOut orderBook
            ↔ ∃ before book after, books = before ++ book :: after
                ∧ (bidsPrice book orderBook
                  ∨ (∀ other, ¬ bidsPrice book other) ∧ asksPrice book orderBook)
                ∧ ∀ earlier ∈ before, ∀ other,
                    ¬ bidsPrice earlier other ∧ ¬ asksPrice earlier other)
          ∧ ((∃ orderBook, Priced pamms venue tokenIn tokenOut orderBook)
            ↔ ∃ book ∈ books, ∃ orderBook,
                bidsPrice book orderBook ∨ asksPrice book orderBook) := by
  intro pamms
  have nothing : WellGrouped [] := ⟨List.nodup_nil, by simp⟩
  have wellGrouped : WellGrouped pamms := nothing.foldl_addBook crates decimals books
  refine ⟨wellGrouped.once, ?_, ?_⟩
  · intro p member
    have grouped := wellGrouped.grouped p member
    exact ⟨grouped.once, fun q pair => ⟨grouped.priced q pair, grouped.paid q pair⟩⟩
  · intro venue tokenIn tokenOut bidsPrice asksPrice
    have kept : ∀ orderBook, Priced pamms venue tokenIn tokenOut orderBook
        ↔ (books.findSome? fun book =>
            (firstPriced venue tokenIn tokenOut (offered crates decimals book)).map
              PairPriceLevels.orderBook) = some orderBook := by
      intro orderBook
      have found : pairAt pamms venue tokenIn tokenOut
          = firstPriced venue tokenIn tokenOut (books.flatMap (offered crates decimals)) :=
        pairAt_foldl_addBook crates decimals [] books venue tokenIn tokenOut
      rw [priced_iff_pairAt wellGrouped, found, ← Option.map_eq_some_iff, firstPriced_books]
    constructor
    · intro orderBook
      simp only [kept, List.findSome?_eq_some_iff, firstPriced_offered_iff,
        firstPriced_offered_eq_none_iff]
      exact Iff.rfl
    · simp only [kept, ← Option.isSome_iff_exists, List.findSome?_isSome_iff]
      simp only [Option.isSome_iff_exists, exists_firstPriced_offered_iff]
      exact Iff.rfl

-- Two of metric's quote addresses: the bids left empty by the first book come from the second,
-- whose asks are shadowed.
example :
    let level : Value :=
      .obj [("price", .number (.finite false ⟨5, 0, by decide⟩ true (by decide))),
      ("cumVolume", .number (.finite false ⟨2, 0, by decide⟩ true (by decide)))]
    let book := fun (quoteAddress : String) (bids asks : List Value) => Value.obj [
      ("quoteAddress", .str quoteAddress),
      ("token1Address", .str "0x0000000000000000000000000000000000000001"),
      ("token2Address", .str "0x0000000000000000000000000000000000000002"),
      ("bids", .arr bids), ("asks", .arr asks)]
    (parseBooks Crates.documented ⟨[(1, 1), (2, 0)], by decide⟩ [] [
        book "0xe844701934d9c6085b292e428f41b911cc0b3872" [] [level],
        book "0x30a88bf894d1b806125a23ebf23d715496fd7102" [level] [level, level]]).pamms
      = [⟨metric, [⟨2, 1, [⟨10, 20⟩]⟩, ⟨1, 2, [⟨20, 10⟩]⟩]⟩] := by
  decide +kernel

end Parser

end PropAMM.Rust.Prices
