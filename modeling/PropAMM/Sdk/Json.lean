import Mathlib.Data.List.Basic

/-! # Decoded JSON, and the text it carries

What a JSON decoder hands to the SDKs. The fields of an object stand in the order
in which the decoder's map visits them.
-/

namespace PropAMM

inductive Json where
  | null
  | bool (b : Bool)
  | int (n : Int)
  /-- A literal with a fraction or an exponent, and its value where that is whole. -/
  | float (whole : Option Int)
  /-- An infinity or a NaN, where the decoder has them. -/
  | infinite
  | str (s : String)
  | arr (items : List Json)
  | obj (fields : List (String × Json))

namespace Json

def asObject? : Json → Option (List (String × Json))
  | obj fields => some fields
  | _ => none

def asArray? : Json → Option (List Json)
  | arr items => some items
  | _ => none

def asStr? : Json → Option String
  | str s => some s
  | _ => none

/-- A field of an object; `none` on every other value. -/
def get? (json : Json) (key : String) : Option Json :=
  json.asObject?.bind fun fields => (fields.find? fun f => f.1 = key).map Prod.snd

end Json

namespace Text

/-- `strip_prefix("0x")` -/
def stripPrefix0x (s : String) : Option String :=
  match s.toList with
  | '0' :: 'x' :: rest => some (String.ofList rest)
  | _ => none

def startsWith0x (s : String) : Bool := (stripPrefix0x s).isSome

/-- The value of a digit below the radix, `0`–`9` then the letters of either case. -/
def toDigit (radix : Nat) (c : Char) : Option Nat :=
  let d :=
    if '0' ≤ c ∧ c ≤ '9' then some (c.toNat - '0'.toNat)
    else if 'a' ≤ c ∧ c ≤ 'z' then some (c.toNat - 'a'.toNat + 10)
    else if 'A' ≤ c ∧ c ≤ 'Z' then some (c.toNat - 'A'.toNat + 10)
    else none
  d.filter (· < radix)

/-- The number that digits spell after `n`, most significant first. -/
def digitsFrom (radix : Nat) (n : Nat) : List Char → Option Nat
  | [] => some n
  | c :: cs => (toDigit radix c).bind fun d => digitsFrom radix (n * radix + d) cs

end Text

end PropAMM
