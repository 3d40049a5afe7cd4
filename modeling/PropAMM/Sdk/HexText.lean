import Mathlib.Algebra.Order.Ring.Nat
import Mathlib.Data.List.Induction
import Mathlib.Tactic.Ring
import PropAMM.Router.Chain
import PropAMM.Sdk.Json

/-! # Addresses and words as text

The texts that stand for a 20-byte address and for a 32-byte word, how the lower-case
one is printed, and that an address text lowers to it.
-/

namespace PropAMM.Text

/-- The last `width` hexadecimal digits of `n`. -/
def fixedHex : Nat → Nat → List Char
  | 0, _ => []
  | width + 1, n => fixedHex width (n / 16) ++ [Nat.digitChar (n % 16)]

def addressText (a : Address) : String := String.ofList ('0' :: 'x' :: fixedHex 40 a.toNat)

def wordText (w : Word) : String := String.ofList ('0' :: 'x' :: fixedHex 64 w.toNat)

/-- `0x` and hexadecimal digits of either case, as many as allowed. -/
def hexOf? (bits : Nat) (allowed : Nat → Bool) (s : String) : Option (BitVec bits) :=
  match s.toList with
  | '0' :: 'x' :: hex =>
      if allowed hex.length then (digitsFrom 16 0 hex).map (BitVec.ofNat bits) else none
  | _ => none

/-- A 20-byte address. -/
def address? (s : String) : Option Address := hexOf? 160 (fun n => n = 40) s

/-- A 32-byte word. -/
def word? (s : String) : Option Word := hexOf? 256 (fun n => n = 64) s

/-- A word that may lack leading zeros. -/
def shortWord? (s : String) : Option Word := hexOf? 256 (fun n => 0 < n ∧ n ≤ 64) s

def isAscii (s : String) : Bool := s.toList.all fun c => c.toNat < 128

def lowerAscii (s : String) : String := String.ofList (s.toList.map Char.toLower)

/-! ## Digits -/

theorem toDigit_digitChar {d : Nat} (small : d < 16) : toDigit 16 d.digitChar = some d := by
  have all : ∀ d : Fin 16, toDigit 16 (d : Nat).digitChar = some (d : Nat) := by decide
  exact all ⟨d, small⟩

theorem ascii_of_le {c d : Char} (below : c ≤ d) (ascii : d.toNat < 128) : c.toNat < 128 :=
  Nat.lt_of_le_of_lt (UInt32.le_iff_toNat_le.mp (Char.le_def.mp below)) ascii

theorem ascii_of_toDigit {radix : Nat} {c : Char} {d : Nat} (h : toDigit radix c = some d) :
    c.toNat < 128 := by
  unfold toDigit at h
  obtain ⟨value, _⟩ := Option.filter_eq_some_iff.mp h
  split at value
  · rename_i digit
    exact ascii_of_le digit.2 (by decide)
  · split at value
    · rename_i lower
      exact ascii_of_le lower.2 (by decide)
    · split at value
      · rename_i upper
        exact ascii_of_le upper.2 (by decide)
      · cases value

/-- A hexadecimal digit lowers to the digit printed for its value. -/
theorem digitChar_of_toDigit {c : Char} {d : Nat} (h : toDigit 16 c = some d) :
    d < 16 ∧ c.toLower = d.digitChar := by
  have all : ∀ n : Fin 128, (toDigit 16 (Char.ofNat n)).all (fun d =>
      decide (d < 16 ∧ (Char.ofNat n).toLower = d.digitChar)) = true := by
    decide
  have here := all ⟨c.toNat, ascii_of_toDigit h⟩
  rw [Char.ofNat_toNat, h] at here
  exact of_decide_eq_true here

theorem digitsFrom_concat (radix n : Nat) (l : List Char) (c : Char) :
    digitsFrom radix n (l ++ [c]) =
      (digitsFrom radix n l).bind fun m => (toDigit radix c).map fun d => m * radix + d := by
  induction l generalizing n with
  | nil =>
      simp only [List.nil_append, digitsFrom, Option.bind_some]
      cases toDigit radix c <;> rfl
  | cons b l ih =>
      simp only [List.cons_append, digitsFrom]
      cases toDigit radix b with
      | none => rfl
      | some d => exact ih _

theorem length_fixedHex (width n : Nat) : (fixedHex width n).length = width := by
  induction width generalizing n with
  | zero => rfl
  | succ width ih => rw [fixedHex, List.length_append, ih, List.length_singleton]

theorem digitsFrom_fixedHex {width n : Nat} (small : n < 16 ^ width) :
    digitsFrom 16 0 (fixedHex width n) = some n := by
  induction width generalizing n with
  | zero =>
      have zero : n = 0 := Nat.lt_one_iff.mp small
      rw [zero]
      rfl
  | succ width ih =>
      have head : n / 16 < 16 ^ width := Nat.div_lt_of_lt_mul (Nat.pow_succ' ▸ small)
      rw [fixedHex, digitsFrom_concat, ih head, Option.bind_some,
        toDigit_digitChar (Nat.mod_lt n (by decide)), Option.map_some, Nat.div_add_mod']

/-- A digit text lowers to the one printed for its value. -/
theorem lower_of_digits {l : List Char} {n : Nat} (h : digitsFrom 16 0 l = some n) :
    n < 16 ^ l.length ∧ l.map Char.toLower = fixedHex l.length n := by
  induction l using List.reverseRecOn generalizing n with
  | nil =>
      cases h
      exact ⟨by decide, rfl⟩
  | append_singleton l c ih =>
      rw [digitsFrom_concat] at h
      obtain ⟨m, front, value⟩ := Option.bind_eq_some_iff.mp h
      obtain ⟨d, digit, rfl⟩ := Option.map_eq_some_iff.mp value
      obtain ⟨small, lower⟩ := digitChar_of_toDigit digit
      obtain ⟨bound, text⟩ := ih front
      have quotient : (m * 16 + d) / 16 = m := by omega
      have remainder : (m * 16 + d) % 16 = d := by omega
      rw [List.length_append, List.length_singleton, fixedHex, quotient, remainder, List.map_append,
        text, List.map_singleton, lower, Nat.pow_succ]
      exact ⟨by omega, rfl⟩

theorem digit_of_mem {radix n m : Nat} {l : List Char} (h : digitsFrom radix n l = some m) :
    ∀ c ∈ l, ∃ d, toDigit radix c = some d := by
  induction l generalizing n with
  | nil => simp
  | cons b l ih =>
      obtain ⟨d, digit, rest⟩ := Option.bind_eq_some_iff.mp h
      intro c member
      rcases List.mem_cons.mp member with rfl | member
      · exact ⟨d, digit⟩
      · exact ih rest c member

/-! ## Texts -/

theorem hexOf?_eq_some {bits : Nat} {allowed : Nat → Bool} {s : String} {b : BitVec bits}
    (h : hexOf? bits allowed s = some b) :
    ∃ hex n, s.toList = '0' :: 'x' :: hex ∧ allowed hex.length = true ∧
      digitsFrom 16 0 hex = some n ∧ b = BitVec.ofNat bits n := by
  unfold hexOf? at h
  split at h
  · rename_i hex text
    split at h
    · rename_i length
      obtain ⟨n, value, rfl⟩ := Option.map_eq_some_iff.mp h
      exact ⟨hex, n, text, length, value, rfl⟩
    · cases h
  · cases h

theorem hexOf?_fixedHex {bits width : Nat} {allowed : Nat → Bool} (length : allowed width = true)
    (size : 2 ^ bits ≤ 16 ^ width) (b : BitVec bits) :
    hexOf? bits allowed (String.ofList ('0' :: 'x' :: fixedHex width b.toNat)) = some b := by
  have digits := digitsFrom_fixedHex (Nat.lt_of_lt_of_le b.isLt size)
  simp only [hexOf?, String.toList_ofList, length_fixedHex, length, if_true, digits,
    Option.map_some, BitVec.ofNat_toNat, BitVec.setWidth_eq]

@[simp] theorem address?_addressText (a : Address) : address? (addressText a) = some a :=
  hexOf?_fixedHex (by decide) (by norm_num) a

@[simp] theorem word?_wordText (w : Word) : word? (wordText w) = some w :=
  hexOf?_fixedHex (by decide) (by norm_num) w

theorem addressText_injective : Function.Injective addressText := by
  intro a b same
  have read := congrArg address? same
  rw [address?_addressText, address?_addressText] at read
  exact Option.some.inj read

theorem ascii_of_hexOf? {bits : Nat} {allowed : Nat → Bool} {s : String} {b : BitVec bits}
    (h : hexOf? bits allowed s = some b) : isAscii s = true := by
  obtain ⟨hex, n, text, _, value, _⟩ := hexOf?_eq_some h
  rw [isAscii, text, List.all_eq_true]
  intro c member
  have ascii : c.toNat < 128 := by
    rcases List.mem_cons.mp member with rfl | member
    · decide
    · rcases List.mem_cons.mp member with rfl | member
      · decide
      · obtain ⟨d, digit⟩ := digit_of_mem value c member
        exact ascii_of_toDigit digit
  exact decide_eq_true ascii

/-- An address text is ASCII and lowers to the printed one. -/
theorem lower_address {s : String} {a : Address} (h : address? s = some a) :
    isAscii s = true ∧ lowerAscii s = addressText a := by
  obtain ⟨hex, n, text, length, value, rfl⟩ := hexOf?_eq_some h
  have length : hex.length = 40 := of_decide_eq_true length
  obtain ⟨small, lower⟩ := lower_of_digits value
  rw [length] at small lower
  have digits : (BitVec.ofNat 160 n).toNat = n := by
    rw [BitVec.toNat_ofNat]
    exact Nat.mod_eq_of_lt (Nat.lt_of_lt_of_le small (by norm_num))
  refine ⟨ascii_of_hexOf? h, ?_⟩
  rw [lowerAscii, text, addressText, digits, List.map_cons, List.map_cons, lower]
  rfl

/-- Lower case changes no digit's value. -/
theorem lower_shortWord {s : String} {w : Word} (h : shortWord? s = some w) :
    isAscii s = true ∧ shortWord? (lowerAscii s) = some w := by
  obtain ⟨hex, n, text, length, value, rfl⟩ := hexOf?_eq_some h
  obtain ⟨small, lower⟩ := lower_of_digits value
  refine ⟨ascii_of_hexOf? h, ?_⟩
  have lowered : (lowerAscii s).toList = '0' :: 'x' :: fixedHex hex.length n := by
    rw [lowerAscii, text, String.toList_ofList, List.map_cons, List.map_cons, lower]
    rfl
  simp only [shortWord?, hexOf?, lowered, length_fixedHex, digitsFrom_fixedHex small,
    Option.map_some]
  exact if_pos length

theorem shortWord?_eq_some {s : String} {w : Word} (h : shortWord? s = some w) :
    ∃ hex, s.toList = '0' :: 'x' :: hex ∧ hex ≠ [] ∧ digitsFrom 16 0 hex = some w.toNat := by
  obtain ⟨hex, n, text, length, value, rfl⟩ := hexOf?_eq_some h
  obtain ⟨pos, short⟩ : 0 < hex.length ∧ hex.length ≤ 64 := of_decide_eq_true length
  have size : n < 2 ^ 256 := by
    calc n < 16 ^ hex.length := (lower_of_digits value).1
      _ ≤ 16 ^ 64 := Nat.pow_le_pow_right (by decide) short
      _ = 2 ^ 256 := by norm_num
  refine ⟨hex, text, List.ne_nil_of_length_pos pos, ?_⟩
  rw [value, BitVec.toNat_ofNat, Nat.mod_eq_of_lt size]

end PropAMM.Text
