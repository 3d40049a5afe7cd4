import PropAMM.Lib.DecimalText
import PropAMM.Sdk.RustOverrides

/-! # Decimal amounts and atomic units

`parse_units` and `format_units` of the Rust SDK, on 256-bit integers whose plain
operators panic when they overflow. Formatting an amount and parsing it back
returns it, and what is parsed is exactly what the text denotes.
-/

namespace PropAMM.Rust

open DecimalText

abbrev U256 := Word

/-- A call ends early with an `Err`, or by panicking. -/
inductive Stop where
  | err (e : Error)
  | panicked

abbrev Fallible := Except Stop

namespace U256

/-- A result in range, as `checked_mul` and `checked_add` return it. -/
def checked (n : Nat) : Option U256 := if n < 2 ^ 256 then some (BitVec.ofNat 256 n) else none

def checkedMul (a b : U256) : Option U256 := checked (a.toNat * b.toNat)

def checkedAdd (a b : U256) : Option U256 := checked (a.toNat + b.toNat)

/-- A plain operator, which panics out of range. -/
def orPanic : Option U256 → Fallible U256
  | some v => .ok v
  | none => .error .panicked

def mul (a b : U256) : Fallible U256 := orPanic (checkedMul a b)

def exp10 (n : Nat) : Fallible U256 := orPanic (checked (10 ^ n))

/-- `Display` -/
def display (v : U256) : List Char := Nat.toDigits 10 v.toNat

end U256

open U256

/-- `ok_or_else` -/
def okOr (message : String) : Option U256 → Fallible U256
  | some v => .ok v
  | none => .error (.err (.invalidInput message))

section Units

-- `U256::from_dec_str`
variable (fromDecStr : String → Except String U256)

/-- The closure `parse` of `parse_units`. -/
def parsePart (amount : String) (part : List Char) : Fallible U256 :=
  match fromDecStr (String.ofList part) with
  | .ok v => .ok v
  | .error e => .error (.err (.invalidInput s!"invalid amount {amount}: {e}"))

/-- The integer part, which may be left out. -/
def parseInt (amount : String) (intPart : List Char) : Fallible U256 :=
  if intPart = [] then .ok 0 else parsePart fromDecStr amount intPart

/-- The fraction on top of the scaled integer part. -/
def addFraction (amount : String) (value : U256) (fracPart : List Char) (decimals : Nat) :
    Fallible U256 :=
  if fracPart = [] then .ok value
  else do
    let frac ← parsePart fromDecStr amount fracPart
    let scale ← exp10 (decimals - byteLength fracPart)
    let frac ← mul frac scale
    okOr s!"{amount} overflows a uint256" (U256.checkedAdd value frac)

def parseUnits (amount : String) (decimals : Nat) : Fallible U256 :=
  let parts := splitOnce '.' amount.toList
  let intPart := parts.1
  let fracPart := parts.2.getD []
  if byteLength fracPart > decimals then
    .error (.err (.invalidInput s!"{amount} has more than {decimals} decimal places"))
  else do
    let int ← parseInt fromDecStr amount intPart
    let scale ← exp10 decimals
    let value ← okOr s!"{amount} overflows a uint256" (U256.checkedMul int scale)
    addFraction fromDecStr amount value fracPart decimals

def formatUnits (value : U256) (decimals : Nat) : Fallible String := do
  let scale ← exp10 decimals
  let int := value / scale
  let frac := value % scale
  if frac = 0 then return String.ofList (display int)
  else return String.ofList (display int ++ '.' :: trimZeros (padded decimals (display frac)))

end Units

/-! ## Arithmetic in range -/

@[simp] theorem stop_bind {α β : Type} (a : α) (f : α → Fallible β) : (Except.ok a >>= f) = f a :=
  rfl

theorem U256.checked_of_lt {n : Nat} (h : n < 2 ^ 256) : checked n = some (BitVec.ofNat 256 n) :=
  if_pos h

theorem U256.checked_of_le {n : Nat} (h : 2 ^ 256 ≤ n) : checked n = none :=
  if_neg (Nat.not_lt_of_le h)

theorem U256.toNat_ofNat {n : Nat} (h : n < 2 ^ 256) : (BitVec.ofNat 256 n).toNat = n := by
  rw [BitVec.toNat_ofNat, Nat.mod_eq_of_lt h]

theorem U256.exp10_ok {n : Nat} (h : 10 ^ n < 2 ^ 256) :
    exp10 n = .ok (BitVec.ofNat 256 (10 ^ n)) := by
  rw [exp10, checked_of_lt h, orPanic]

/-! ## Parsing -/

/-- What is documented of `U256::from_dec_str`: it accepts the non-empty texts of ASCII
    digits whose value is in range, and no others. -/
def ReadsDecimals (fromDecStr : String → Except String U256) : Prop :=
  ∀ s v, fromDecStr s = .ok v ↔ s.toList ≠ [] ∧ Digits s.toList ∧
    Nat.ofDigitChars 10 s.toList 0 = v.toNat

section Parsing

variable {fromDecStr : String → Except String U256} (reads : ReadsDecimals fromDecStr)
  (amount : String)

include reads

/-- A part is read as its value, or is an `Err` when it is no number in range. -/
theorem parsePart_cases {part : List Char} (some : part ≠ []) :
    (∃ v, parsePart fromDecStr amount part = .ok v ∧ Digits part ∧
      Nat.ofDigitChars 10 part 0 = v.toNat) ∨
      ∃ e, parsePart fromDecStr amount part = .error (.err e) ∧
        ¬ (Digits part ∧ Nat.ofDigitChars 10 part 0 < 2 ^ 256) := by
  unfold parsePart
  cases read : fromDecStr (String.ofList part) with
  | ok v =>
      obtain ⟨_, digits, value⟩ := (reads _ v).mp read
      rw [String.toList_ofList] at digits value
      exact .inl ⟨v, rfl, digits, value⟩
  | error e =>
      refine .inr ⟨_, rfl, ?_⟩
      rintro ⟨digits, fits⟩
      have accepted : fromDecStr (String.ofList part) =
          .ok (BitVec.ofNat 256 (Nat.ofDigitChars 10 part 0)) := by
        rw [reads, String.toList_ofList, toNat_ofNat fits]
        exact ⟨some, digits, rfl⟩
      rw [accepted] at read
      cases read

theorem parseInt_cases (part : List Char) :
    (∃ v, parseInt fromDecStr amount part = .ok v ∧ Digits part ∧
      Nat.ofDigitChars 10 part 0 = v.toNat) ∨
      ∃ e, parseInt fromDecStr amount part = .error (.err e) ∧
        ¬ (Digits part ∧ Nat.ofDigitChars 10 part 0 < 2 ^ 256) := by
  unfold parseInt
  by_cases empty : part = []
  · subst empty
    exact .inl ⟨0, rfl, Digits.nil, rfl⟩
  · rw [if_neg empty]
    exact parsePart_cases reads amount empty

/-- A fraction of at most `decimals` digits is scaled without overflow, and added or
    reported as one. -/
theorem addFraction_cases {decimals : Nat} (fits : 10 ^ decimals < 2 ^ 256) (value : U256)
    {fraction : List Char} (short : byteLength fraction ≤ decimals) :
    (∃ n, addFraction fromDecStr amount value fraction decimals = .ok n ∧ Digits fraction ∧
      value.toNat + Nat.ofDigitChars 10 fraction 0 * 10 ^ (decimals - fraction.length) = n.toNat) ∨
      ∃ e, addFraction fromDecStr amount value fraction decimals = .error (.err e) ∧
        ¬ (Digits fraction ∧
          value.toNat + Nat.ofDigitChars 10 fraction 0 * 10 ^ (decimals - fraction.length) <
            2 ^ 256) := by
  unfold addFraction
  by_cases empty : fraction = []
  · subst empty
    exact .inl ⟨value, rfl, Digits.nil, by simp⟩
  rw [if_neg empty]
  rcases parsePart_cases reads amount empty with ⟨frac, read, digits, worth⟩ | ⟨e, refused, none⟩
  · have length := digits.byteLength
    rw [length] at short ⊢
    have power : 10 ^ (decimals - fraction.length) < 2 ^ 256 :=
      Nat.lt_of_le_of_lt (Nat.pow_le_pow_right (by decide) (Nat.sub_le _ _)) fits
    have scaled : frac.toNat * 10 ^ (decimals - fraction.length) < 2 ^ 256 := by
      calc frac.toNat * 10 ^ (decimals - fraction.length)
          ≤ 10 ^ fraction.length * 10 ^ (decimals - fraction.length) :=
            Nat.mul_le_mul_right _ (worth ▸ digits.lt_pow.le)
        _ = 10 ^ decimals := by rw [← Nat.pow_add, Nat.add_sub_cancel' short]
        _ < 2 ^ 256 := fits
    have product : mul frac (BitVec.ofNat 256 (10 ^ (decimals - fraction.length))) =
        .ok (BitVec.ofNat 256 (frac.toNat * 10 ^ (decimals - fraction.length))) := by
      rw [mul, U256.checkedMul, toNat_ofNat power, checked_of_lt scaled, orPanic]
    simp only [read, exp10_ok power, product, stop_bind, worth]
    rw [U256.checkedAdd, toNat_ofNat scaled]
    rcases Nat.lt_or_ge (value.toNat + frac.toNat * 10 ^ (decimals - fraction.length))
      (2 ^ 256) with room | beyond
    · exact .inl ⟨_, by rw [checked_of_lt room, okOr], digits, (toNat_ofNat room).symm⟩
    · exact .inr ⟨_, by rw [checked_of_le beyond, okOr],
        fun h => absurd h.2 (Nat.not_lt_of_le beyond)⟩
  · refine .inr ⟨e, by rw [refused]; rfl, ?_⟩
    rintro ⟨digits, total⟩
    exact none ⟨digits, Nat.lt_of_lt_of_le digits.lt_pow (by
      rw [← digits.byteLength]
      exact Nat.le_trans (Nat.pow_le_pow_right (by decide) short) fits.le)⟩

/-- The text is read as the units it denotes, or is an `Err` when it denotes none in range. -/
theorem parseUnits_cases {decimals : Nat} (fits : 10 ^ decimals < 2 ^ 256) {whole : List Char}
    {rest : Option (List Char)} (split : splitOnce '.' amount.toList = (whole, rest)) :
    (∃ n, parseUnits fromDecStr amount decimals = .ok n ∧ Digits whole ∧ Digits (rest.getD []) ∧
      (rest.getD []).length ≤ decimals ∧ fixedPoint whole (rest.getD []) decimals = n.toNat) ∨
      ∃ e, parseUnits fromDecStr amount decimals = .error (.err e) ∧
        ¬ (Digits whole ∧ Digits (rest.getD []) ∧ (rest.getD []).length ≤ decimals ∧
          fixedPoint whole (rest.getD []) decimals < 2 ^ 256) := by
  unfold parseUnits
  simp only [split]
  generalize rest.getD [] = fraction
  rcases Nat.lt_or_ge decimals (byteLength fraction) with long | short
  · refine .inr ⟨_, if_pos long, ?_⟩
    rintro ⟨_, digits, few, _⟩
    rw [digits.byteLength] at long
    omega
  rw [if_neg (Nat.not_lt_of_le short)]
  rcases parseInt_cases reads amount whole with ⟨int, read, digits, worth⟩ | ⟨e, refused, none⟩
  · simp only [read, exp10_ok fits, stop_bind, U256.checkedMul, toNat_ofNat fits]
    rcases Nat.lt_or_ge (int.toNat * 10 ^ decimals) (2 ^ 256) with room | beyond
    · rw [checked_of_lt room]
      show (∃ n, addFraction _ _ _ _ _ = _ ∧ _) ∨ ∃ e, addFraction _ _ _ _ _ = _ ∧ _
      have added :=
        addFraction_cases reads amount fits (BitVec.ofNat 256 (int.toNat * 10 ^ decimals)) short
      rw [toNat_ofNat room] at added
      rcases added with ⟨n, sum, fraction_digits, total⟩ | ⟨e, refused, none⟩
      · refine .inl ⟨n, sum, digits, fraction_digits, ?_, ?_⟩
        · rw [← fraction_digits.byteLength]
          exact short
        · rw [fixedPoint, worth]
          exact total
      · refine .inr ⟨e, refused, ?_⟩
        rintro ⟨_, fraction_digits, _, total⟩
        rw [fixedPoint, worth] at total
        exact none ⟨fraction_digits, total⟩
    · refine .inr ⟨_, by rw [checked_of_le beyond]; rfl, ?_⟩
      rintro ⟨_, _, _, total⟩
      rw [fixedPoint, worth] at total
      omega
  · refine .inr ⟨e, by rw [refused]; rfl, ?_⟩
    rintro ⟨digits, _, _, total⟩
    apply none ⟨digits, Nat.lt_of_le_of_lt _ total⟩
    rw [fixedPoint]
    exact Nat.le_trans (Nat.le_mul_of_pos_right _ (Nat.pow_pos (by decide))) (Nat.le_add_right _ _)

variable {amount}

/-- A text whose parts denote an amount is parsed as it. -/
theorem parseUnits_of_split {decimals : Nat} (fits : 10 ^ decimals < 2 ^ 256)
    {whole fraction : List Char} (whole_digits : Digits whole) (digits : Digits fraction)
    (short : fraction.length ≤ decimals) {n : U256}
    (value : n.toNat = fixedPoint whole fraction decimals)
    (split : (splitOnce '.' amount.toList).1 = whole ∧
      (splitOnce '.' amount.toList).2.getD [] = fraction) :
    parseUnits fromDecStr amount decimals = .ok n := by
  obtain ⟨rfl, rfl⟩ := split
  rcases parseUnits_cases reads amount fits (Prod.eta (splitOnce '.' amount.toList)).symm with
    ⟨n', read, _, _, _, total⟩ | ⟨e, _, none⟩
  · rw [read, BitVec.eq_of_toNat_eq (total.symm.trans value.symm)]
  · exact absurd ⟨whole_digits, digits, short, value ▸ n.isLt⟩ none

end Parsing

/-! ## Formatting -/

/-- What an amount is formatted as, the fraction left out where it is zero. -/
theorem formatUnits_ok {decimals : Nat} (fits : 10 ^ decimals < 2 ^ 256) (v : U256) :
    ∃ fraction, formatUnits v decimals =
        .ok (String.ofList (pointed (Nat.toDigits 10 (v.toNat / 10 ^ decimals)) fraction)) ∧
      Digits fraction ∧ fraction.length ≤ decimals ∧
      fixedPoint (Nat.toDigits 10 (v.toNat / 10 ^ decimals)) fraction decimals = v.toNat := by
  have whole : Nat.ofDigitChars 10 (Nat.toDigits 10 (v.toNat / 10 ^ decimals)) 0 =
      v.toNat / 10 ^ decimals :=
    Nat.ofDigitChars_ten_toDigits
  have parts : v.toNat / 10 ^ decimals * 10 ^ decimals + v.toNat % 10 ^ decimals = v.toNat :=
    Nat.div_add_mod' _ _
  have int : (v / BitVec.ofNat 256 (10 ^ decimals)).toNat = v.toNat / 10 ^ decimals := by
    rw [BitVec.toNat_udiv, toNat_ofNat fits]
  have frac : (v % BitVec.ofNat 256 (10 ^ decimals)).toNat = v.toNat % 10 ^ decimals := by
    rw [BitVec.toNat_umod, toNat_ofNat fits]
  simp only [formatUnits, exp10_ok fits, stop_bind, display, int, frac]
  by_cases zero : v % BitVec.ofNat 256 (10 ^ decimals) = 0
  · have none : v.toNat % 10 ^ decimals = 0 := by
      rw [← frac, zero]
      rfl
    rw [if_pos zero]
    refine ⟨[], rfl, Digits.nil, Nat.zero_le _, ?_⟩
    rw [fixedPoint, whole, Nat.ofDigitChars_nil, Nat.zero_mul, Nat.add_zero]
    omega
  · have some : v.toNat % 10 ^ decimals ≠ 0 := by
      intro none
      rw [← frac] at none
      exact zero (BitVec.eq_of_toNat_eq none)
    have positive : 0 < decimals := by
      rcases Nat.eq_zero_or_pos decimals with none | positive
      · rw [none, Nat.pow_zero, Nat.mod_one] at some
        exact absurd rfl some
      · exact positive
    have small : v.toNat % 10 ^ decimals < 10 ^ decimals := Nat.mod_lt _ (Nat.pow_pos (by decide))
    have digits := ((Digits.toDigits (v.toNat % 10 ^ decimals)).padded decimals).trimZeros
    obtain ⟨short, value⟩ :=
      fixedPoint_trimZeros small positive (Nat.toDigits 10 (v.toNat / 10 ^ decimals))
    rw [if_neg zero]
    refine ⟨_, ?_, digits, short, by rw [value, whole, parts]⟩
    -- What is left of the fraction is not empty, or it would be worth nothing.
    have nonempty : trimZeros (padded decimals (Nat.toDigits 10 (v.toNat % 10 ^ decimals))) ≠
        [] := by
      intro empty
      rw [empty, fixedPoint, Nat.ofDigitChars_nil, Nat.zero_mul] at value
      omega
    rw [pointed, if_neg (by simpa using nonempty)]
    rfl

/-- Formatting and parsing are exact: every amount is parsed back from its text, and a
    text is parsed as what it denotes, in units of `10 ^ -decimals`, if that is in range;
    every other text is an `Err`. -/
theorem units_exact {fromDecStr : String → Except String U256} (reads : ReadsDecimals fromDecStr)
    {decimals : Nat} (fits : 10 ^ decimals < 2 ^ 256) :
    (∀ v : U256, ∃ text, formatUnits v decimals = .ok text ∧
      parseUnits fromDecStr text decimals = .ok v) ∧
    (∀ (s : String) (n : U256), parseUnits fromDecStr s decimals = .ok n ↔
      ∃ whole fraction, Digits whole ∧ Digits fraction ∧ fraction.length ≤ decimals ∧
        (s.toList = whole ∧ fraction = [] ∨ s.toList = whole ++ '.' :: fraction) ∧
        (n.toNat : ℚ) = denoted whole fraction 0 * 10 ^ decimals) ∧
    ∀ s : String, (∃ n, parseUnits fromDecStr s decimals = .ok n) ∨
      ∃ e, parseUnits fromDecStr s decimals = .error (.err e) := by
  refine ⟨fun v => ?_, fun s n => ⟨fun parsed => ?_, ?_⟩, fun s => ?_⟩
  · obtain ⟨fraction, formatted, digits, short, value⟩ := formatUnits_ok fits v
    refine ⟨_, formatted, ?_⟩
    apply parseUnits_of_split reads fits (Digits.toDigits _) digits short value.symm
    rw [String.toList_ofList]
    exact split_pointed (Digits.toDigits _)
  · rcases parseUnits_cases reads s fits (Prod.eta (splitOnce '.' s.toList)).symm with
      ⟨n', read, whole_digits, digits, short, value⟩ | ⟨e, refused, _⟩
    · cases read.symm.trans parsed
      refine ⟨_, _, whole_digits, digits, short, ?_, ?_⟩
      · cases rest : (splitOnce '.' s.toList).2 with
        | none => exact .inl ⟨eq_of_splitOnce_none (Prod.ext rfl rest), rfl⟩
        | some fraction => exact .inr (eq_of_splitOnce_some (Prod.ext rfl rest))
      · rw [denoted_mul_pow short, value]
    · rw [refused] at parsed
      cases parsed
  · rintro ⟨whole, fraction, whole_digits, digits, short, shape, value⟩
    rw [denoted_mul_pow short] at value
    apply parseUnits_of_split reads fits whole_digits digits short (by exact_mod_cast value)
    have absent : '.' ∉ whole := whole_digits.not_mem rfl
    rcases shape with ⟨plain, rfl⟩ | pointed
    · rw [plain, splitOnce_none absent]
      exact ⟨rfl, rfl⟩
    · rw [pointed, splitOnce_some absent]
      exact ⟨rfl, rfl⟩
  · rcases parseUnits_cases reads s fits (Prod.eta (splitOnce '.' s.toList)).symm with
      ⟨n, read, _⟩ | ⟨e, refused, _⟩
    · exact .inl ⟨n, read⟩
    · exact .inr ⟨e, refused⟩

/-- A reader of decimals as documented. -/
def readDecimal (s : String) : Except String U256 :=
  if s.toList = [] ∨ s.toList.all Char.isDigit = false then
    .error "a character is not in the range 0-9"
  else match checked (Nat.ofDigitChars 10 s.toList 0) with
    | some v => .ok v
    | none => .error "the number is too large for the type"

theorem readsDecimals_readDecimal : ReadsDecimals readDecimal := by
  intro s v
  unfold readDecimal
  by_cases malformed : s.toList = [] ∨ s.toList.all Char.isDigit = false
  · rw [if_pos malformed]
    refine ⟨fun h => absurd h (by simp), ?_⟩
    rintro ⟨some, digits, _⟩
    rcases malformed with none | other
    · exact absurd none some
    · rw [List.all_eq_true.mpr digits] at other
      cases other
  · obtain ⟨some, digits⟩ := not_or.mp malformed
    have digits : Digits s.toList := List.all_eq_true.mp (Bool.of_not_eq_false digits)
    rw [if_neg malformed]
    rcases Nat.lt_or_ge (Nat.ofDigitChars 10 s.toList 0) (2 ^ 256) with room | beyond
    · rw [checked_of_lt room]
      simp only [Except.ok.injEq]
      constructor
      · rintro rfl
        exact ⟨some, digits, (toNat_ofNat room).symm⟩
      · rintro ⟨_, _, value⟩
        exact BitVec.eq_of_toNat_eq ((toNat_ofNat room).trans value)
    · rw [checked_of_le beyond]
      refine ⟨fun h => absurd h (by simp), ?_⟩
      rintro ⟨_, _, value⟩
      have := v.isLt
      omega

theorem units_exact_sample :
    (∀ v : U256, ∃ text, formatUnits v 6 = .ok text ∧ parseUnits readDecimal text 6 = .ok v) ∧
    (∀ (s : String) (n : U256), parseUnits readDecimal s 6 = .ok n ↔
      ∃ whole fraction, Digits whole ∧ Digits fraction ∧ fraction.length ≤ 6 ∧
        (s.toList = whole ∧ fraction = [] ∨ s.toList = whole ++ '.' :: fraction) ∧
        (n.toNat : ℚ) = denoted whole fraction 0 * 10 ^ 6) ∧
    ∀ s : String, (∃ n, parseUnits readDecimal s 6 = .ok n) ∨
      ∃ e, parseUnits readDecimal s 6 = .error (.err e) :=
  units_exact readsDecimals_readDecimal (by decide)

/-- The most precise scale, at the largest amount. -/
example : (formatUnits (BitVec.allOnes 256) 77).toOption =
    some "1.15792089237316195423570985008687907853269984665640564039457584007913129639935" := by
  decide +kernel

end PropAMM.Rust
