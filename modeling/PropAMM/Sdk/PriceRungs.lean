import PropAMM.Lib.DecimalText

/-! # Price rungs in base units

A v2 book carries its rungs as JSON numbers in human units. Each SDK takes a number's
shortest decimal from the text its language prints, multiplies volume by price exactly
and rounds both amounts to base units of their tokens.
-/

namespace PropAMM.Prices

open DecimalText

/-- A decoded JSON number, by the shortest decimal that reads back as it. Rust and TypeScript
    hold every number as the nearest double, Python an integer literal by its own digits. One
    `Number` stands for what all three hold, as it does where an integer literal is the
    shortest decimal of its double: every literal below `2 ^ 53` is. -/
inductive Number where
  /-- `integer` marks a literal without fraction or exponent, an `int` in Python. -/
  | finite (negative : Bool) (magnitude : Shortest) (integer : Bool)
      (integral : integer = true → 0 ≤ magnitude.exponent)
  | zero (negative integer : Bool)
  | nonfinite

inductive Value where
  | null
  | bool (b : Bool)
  | number (n : Number)
  | str (s : String)
  | arr (items : List Value)
  | obj (fields : List (String × Value))

namespace Value

def asNumber? : Value → Option Number
  | number n => some n
  | _ => none

def asArray? : Value → Option (List Value)
  | arr items => some items
  | _ => none

def asStr? : Value → Option String
  | str s => some s
  | _ => none

/-- A field of an object; `none` on every other value. -/
def get? (key : String) : Value → Option Value
  | obj fields => (fields.find? fun f => f.1 = key).map Prod.snd
  | _ => none

end Value

namespace Number

def isFinite : Number → Bool
  | nonfinite => false
  | _ => true

/-- `n < 0`, which a negative zero is not. -/
def isNegative : Number → Bool
  | finite negative _ _ _ => negative
  | _ => false

end Number

/-- The sign a text starts with. -/
def sign (negative : Bool) : List Char := if negative then ['-'] else []

structure PriceLevel where
  amountIn : Nat
  amountOut : Nat
  deriving DecidableEq, Repr

def maxUint256 : Nat := 2 ^ 256 - 1

/-- `if base_in and base_out is not None`, where a zero is false. -/
def levelOf : Option Nat → Option Nat → Option PriceLevel
  | some baseIn, some baseOut =>
      if baseIn ≠ 0 then some { amountIn := baseIn, amountOut := baseOut } else none
  | _, _ => none

end PropAMM.Prices

/-! ## Rust -/

namespace PropAMM.Rust.Prices

open DecimalText PropAMM.Prices

/-- `f64`'s `Display`, which never prints an exponent. -/
def display : Number → List Char
  | .finite negative magnitude _ _ => sign negative ++ magnitude.plain
  | .zero negative _ => sign negative ++ ['0']
  | .nonfinite => "inf".toList

/-- A `U256` result, or `none` past its range. -/
def checked (n : Nat) : Option Nat := if n < 2 ^ 256 then some n else none

/-- `digits / 10 ^ scale`, the digits a `U256`. -/
structure Decimal where
  digits : Nat
  scale : Nat
  fits : digits < 2 ^ 256

/-- `10 ^ exponent`, or `none` past `U256::MAX`. -/
def pow10 (exponent : Nat) : Option Nat := checked (10 ^ exponent)

namespace Decimal

def ofDigits (digits scale : Nat) : Option Decimal :=
  if fits : digits < 2 ^ 256 then some ⟨digits, scale, fits⟩ else none

def fromJson (value : Value) : Option Decimal := do
  let number ← value.asNumber?.filter fun n => n.isFinite && !n.isNegative
  let text := splitOnce '.' (display number)
  let fraction := text.2.getD []
  -- The text of an `f64` is far shorter than a `u32` scale can count.
  ofDigits (← digits? (text.1 ++ fraction)) fraction.length

/-- The exact product, or `none` when its digits overflow a `U256`. -/
def times (self other : Decimal) : Option Decimal :=
  ofDigits (self.digits * other.digits) (self.scale + other.scale)

def baseUnits (self : Decimal) (decimals : Nat) : Option Nat :=
  if self.scale ≤ decimals then do
    checked (self.digits * (← pow10 (decimals - self.scale)))
  else
    match pow10 (self.scale - decimals) with
    -- A divisor past `U256::MAX` is over twice any `digits`: rounds to zero.
    | none => some 0
    | some divisor =>
        let quotient := self.digits / divisor
        let remainder := self.digits % divisor
        some (if divisor - remainder ≤ remainder then quotient + 1 else quotient)

end Decimal

def rung (entry : Value) : Option (Decimal × Decimal) := do
  let volume ← (entry.get? "cumVolume").bind Decimal.fromJson
  let price ← (entry.get? "price").bind Decimal.fromJson
  some (volume, ← volume.times price)

def rungs (value : Option Value) : List (Decimal × Decimal) :=
  ((value.bind Value.asArray?).getD []).filterMap rung

def level (decimalsIn decimalsOut : Nat) (rung : Decimal × Decimal) : Option PriceLevel := do
  let amountIn ← (rung.1.baseUnits decimalsIn).filter (· ≠ 0)
  let amountOut ← rung.2.baseUnits decimalsOut
  some { amountIn, amountOut }

def levels (rungs : List (Decimal × Decimal)) (decimalsIn decimalsOut : Nat) : List PriceLevel :=
  rungs.filterMap (level decimalsIn decimalsOut)

/-- A book's bids: `cumVolume` of token1 for `cumVolume * price` of token2. -/
def bids (value : Option Value) (d1 d2 : Nat) : List PriceLevel := levels (rungs value) d1 d2

/-- A book's asks: `cumVolume * price` of token2 for `cumVolume` of token1. -/
def asks (value : Option Value) (d1 d2 : Nat) : List PriceLevel :=
  levels ((rungs value).map fun r => (r.2, r.1)) d2 d1

end PropAMM.Rust.Prices

/-! ## Python -/

namespace PropAMM.Python.Prices

open DecimalText PropAMM.Prices

/-- A float's text has an exponent outside `[1e-4, 1e16)` and a point where it has none;
    an int's has neither. -/
def repr : Number → List Char
  | .finite negative magnitude integer _ =>
      sign negative ++
        if integer then magnitude.plain
        else if -4 < magnitude.point ∧ magnitude.point ≤ 16 then
          if magnitude.fraction.isEmpty then magnitude.plain ++ ['.', '0'] else magnitude.plain
        else magnitude.scientific 2
  | .zero negative integer => if integer then ['0'] else sign negative ++ ['0', '.', '0']
  | .nonfinite => "inf".toList

/-- A finite `Decimal`, `coefficient · 10 ^ exponent`. Nothing reads the sign of a zero,
    and no other negative is kept. -/
structure Decimal where
  coefficient : Nat
  exponent : Int
  deriving DecidableEq

def digitCount (n : Nat) : Nat := (Nat.toDigits 10 n).length

/-- `_EXACT`'s precision. Its exponent range lies far outside what floats reach. -/
def prec : Nat := 100

namespace Decimal

/-- `Decimal(text)` of an unsigned text; `none` for the specials. -/
def ofText (text : List Char) : Option Decimal := do
  let parts := splitOnce 'e' text
  let mantissa := splitOnce '.' parts.1
  let fraction := mantissa.2.getD []
  let coefficient ← digits? (mantissa.1 ++ fraction)
  let exponent ← signedDigits? (parts.2.getD ['0'])
  some ⟨coefficient, exponent - fraction.length⟩

/-- A result brought to the context's precision, half to even. -/
def fix (d : Decimal) : Decimal :=
  let dropped := digitCount d.coefficient - prec
  if dropped = 0 then d
  else
    let divisor := 10 ^ dropped
    let quotient := d.coefficient / divisor
    let twice := 2 * (d.coefficient % divisor)
    let rounded :=
      if divisor < twice ∨ (divisor = twice ∧ quotient % 2 = 1) then quotient + 1 else quotient
    if rounded = 10 ^ prec then ⟨10 ^ (prec - 1), d.exponent + dropped + 1⟩
    else ⟨rounded, d.exponent + dropped⟩

def multiply (a b : Decimal) : Decimal :=
  fix ⟨a.coefficient * b.coefficient, a.exponent + b.exponent⟩

def scaleb (d : Decimal) (n : Nat) : Decimal := fix ⟨d.coefficient, d.exponent + n⟩

/-- The coefficient at exponent zero, half up. -/
def rescale (d : Decimal) : Nat :=
  if 0 ≤ d.exponent then d.coefficient * 10 ^ d.exponent.toNat
  else
    let divisor := 10 ^ (-d.exponent).toNat
    if divisor ≤ 2 * (d.coefficient % divisor) then d.coefficient / divisor + 1
    else d.coefficient / divisor

/-- `quantize(Decimal(1), ROUND_HALF_UP, _EXACT)` as an integer; `none` where it raises
    `InvalidOperation`. -/
def quantize (d : Decimal) : Option Nat :=
  if d.coefficient = 0 then some 0
  else
    let adjusted := (digitCount d.coefficient : Int) - 1 + d.exponent
    if prec < adjusted + 1 then none
    else if prec < digitCount d.rescale then none
    else some d.rescale

end Decimal

def decimal (value : Value) : Option Decimal := do
  match repr (← value.asNumber?) with
  | '-' :: text => (Decimal.ofText text).filter fun d => d.coefficient = 0
  | text => Decimal.ofText text

def rung (entry : Value) : Option (Decimal × Decimal) := do
  let volume ← (entry.get? "cumVolume").bind decimal
  let price ← (entry.get? "price").bind decimal
  some (volume, volume.multiply price)

def rungs (value : Option Value) : List (Decimal × Decimal) :=
  ((value.bind Value.asArray?).getD []).filterMap rung

def baseUnits (value : Decimal) (decimals : Nat) : Option Nat :=
  (value.scaleb decimals).quantize.filter (· ≤ maxUint256)

def level (decimalsIn decimalsOut : Nat) (rung : Decimal × Decimal) : Option PriceLevel :=
  levelOf (baseUnits rung.1 decimalsIn) (baseUnits rung.2 decimalsOut)

def levels (rungs : List (Decimal × Decimal)) (decimalsIn decimalsOut : Nat) : List PriceLevel :=
  rungs.filterMap (level decimalsIn decimalsOut)

def bids (value : Option Value) (d1 d2 : Nat) : List PriceLevel := levels (rungs value) d1 d2

def asks (value : Option Value) (d1 d2 : Nat) : List PriceLevel :=
  levels ((rungs value).map fun r => (r.2, r.1)) d2 d1

end PropAMM.Python.Prices

/-! ## TypeScript -/

namespace PropAMM.TypeScript.Prices

open DecimalText PropAMM.Prices

/-- A number's text has an exponent outside `[1e-6, 1e21)`. -/
def toString : Number → List Char
  | .finite negative magnitude _ _ =>
      sign negative ++
        if -6 < magnitude.point ∧ magnitude.point ≤ 21 then magnitude.plain
        else magnitude.scientific 1
  | .zero _ _ => ['0']
  | .nonfinite => "Infinity".toList

/-- `digits / 10 ^ scale` -/
structure Decimal where
  digits : Nat
  scale : Int
  deriving DecidableEq

/-- The first two of `text.split(separator)`. -/
def split (separator : Char) (text : List Char) : List Char × Option (List Char) :=
  let pieces := text.splitOn separator
  (pieces.headD [], pieces[1]?)

def toDecimal (value : Value) : Option Decimal := do
  let number ← value.asNumber?.filter fun n => n.isFinite && !n.isNegative
  let parts := split 'e' (toString number)
  let mantissa := split '.' parts.1
  let fraction := mantissa.2.getD []
  -- Neither conversion fails on the text of a number.
  let digits ← digits? (mantissa.1 ++ fraction)
  let exponent ← signedDigits? (parts.2.getD ['0'])
  some { digits, scale := fraction.length - exponent }

def toBaseUnits (value : Decimal) (decimals : Nat) : Option Nat :=
  let shift : Int := decimals - value.scale
  let units :=
    if 0 ≤ shift then value.digits * 10 ^ shift.toNat
    else
      let divisor := 10 ^ (-shift).toNat
      (value.digits + divisor / 2) / divisor
  if units ≤ maxUint256 then some units else none

def rung (entry : Value) : Option (Decimal × Decimal) := do
  let volume ← (entry.get? "cumVolume").bind toDecimal
  let price ← (entry.get? "price").bind toDecimal
  some (volume, { digits := volume.digits * price.digits, scale := volume.scale + price.scale })

def parseRungs (value : Option Value) : List (Decimal × Decimal) :=
  ((value.bind Value.asArray?).getD []).filterMap rung

def level (decimalsIn decimalsOut : Nat) (rung : Decimal × Decimal) : Option PriceLevel :=
  levelOf (toBaseUnits rung.1 decimalsIn) (toBaseUnits rung.2 decimalsOut)

def toLevels (rungs : List (Decimal × Decimal)) (decimalsIn decimalsOut : Nat) :
    List PriceLevel :=
  rungs.filterMap (level decimalsIn decimalsOut)

def bids (value : Option Value) (d1 d2 : Nat) : List PriceLevel := toLevels (parseRungs value) d1 d2

def asks (value : Option Value) (d1 d2 : Nat) : List PriceLevel :=
  toLevels ((parseRungs value).map fun r => (r.2, r.1)) d2 d1

end PropAMM.TypeScript.Prices
