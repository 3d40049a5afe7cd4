import Mathlib.Algebra.Order.Field.Basic
import Mathlib.Data.List.DropRight
import Mathlib.Data.Nat.Digits.Defs
import Mathlib.Tactic.LinearCombination
import Mathlib.Tactic.NormNum
import Mathlib.Tactic.Ring

/-! # Shortest decimals and the texts that print them

A positive decimal without a spare digit, its plain and its scientific text, and what
the usual pieces of a reader (a split at the point, a split at the exponent, the digits
of an integer) find in each.
-/

namespace DecimalText

/-! ## Readers -/

/-- The text before the first `sep`, and what follows it where there is one. -/
def splitOnce (sep : Char) : List Char → List Char × Option (List Char)
  | [] => ([], none)
  | c :: cs =>
      if c = sep then ([], some cs)
      else
        let rest := splitOnce sep cs
        (c :: rest.1, rest.2)

theorem splitOnce_none {sep : Char} {l : List Char} (absent : sep ∉ l) :
    splitOnce sep l = (l, none) := by
  induction l with
  | nil => rfl
  | cons c cs ih =>
      have other : c ≠ sep := fun h => absent (by simp [h])
      simp only [splitOnce, if_neg other, ih fun h => absent (List.mem_cons_of_mem c h)]

theorem splitOnce_some {sep : Char} {l : List Char} (absent : sep ∉ l) (rest : List Char) :
    splitOnce sep (l ++ sep :: rest) = (l, some rest) := by
  induction l with
  | nil => simp [splitOnce]
  | cons c cs ih =>
      have other : c ≠ sep := fun h => absent (by simp [h])
      simp only [List.cons_append, splitOnce, if_neg other,
        ih fun h => absent (List.mem_cons_of_mem c h)]

theorem eq_of_splitOnce_none {sep : Char} {l whole : List Char}
    (h : splitOnce sep l = (whole, none)) : l = whole := by
  induction l generalizing whole with
  | nil => cases h; rfl
  | cons c cs ih =>
      by_cases same : c = sep
      · simp [splitOnce, same] at h
      · simp only [splitOnce, if_neg same, Prod.mk.injEq] at h
        rw [← h.1]
        exact congrArg (c :: ·) (ih (Prod.ext rfl h.2))

theorem eq_of_splitOnce_some {sep : Char} {l whole rest : List Char}
    (h : splitOnce sep l = (whole, some rest)) : l = whole ++ sep :: rest := by
  induction l generalizing whole with
  | nil => cases h
  | cons c cs ih =>
      by_cases same : c = sep
      · simp only [splitOnce, if_pos same, Prod.mk.injEq, Option.some.injEq] at h
        rw [same, ← h.1, h.2, List.nil_append]
      · simp only [splitOnce, if_neg same, Prod.mk.injEq] at h
        rw [← h.1, List.cons_append, ← ih (Prod.ext rfl h.2)]

/-- The text before the last `sep`, and what follows it, where there is one. -/
def rsplitOnce (sep : List Char) : List Char → Option (List Char × List Char)
  | [] => none
  | c :: cs =>
      match rsplitOnce sep cs with
      | some (front, back) => some (c :: front, back)
      | none => if sep.isPrefixOf (c :: cs) then some ([], (c :: cs).drop sep.length) else none

/-- A text without one of its characters does not contain the separator. -/
theorem rsplitOnce_none {sep l : List Char} {c : Char} (part : c ∈ sep) (absent : c ∉ l) :
    rsplitOnce sep l = none := by
  induction l with
  | nil => rfl
  | cons a l ih =>
      have elsewhere : ¬ sep.isPrefixOf (a :: l) := by
        intro front
        exact absent ((List.isPrefixOf_iff_prefix.mp front).subset part)
      simp only [rsplitOnce, ih fun member => absent (List.mem_cons_of_mem a member),
        if_neg elsewhere]

/-- What comes before does not matter to the last one. -/
theorem rsplitOnce_append {sep l front back : List Char}
    (last : rsplitOnce sep l = some (front, back)) (before : List Char) :
    rsplitOnce sep (before ++ l) = some (before ++ front, back) := by
  induction before with
  | nil => exact last
  | cons c before ih => simp only [List.cons_append, rsplitOnce, ih]

/-- A text that the separator starts, up to a character that neither has elsewhere. -/
theorem eq_of_prefix_mark {c : Char} {front l after rest : List Char} (absent : c ∉ front)
    (elsewhere : c ∉ l) (starts : front ++ c :: after <+: l ++ c :: rest) : front = l := by
  obtain ⟨tail, same⟩ := starts
  have left := splitOnce_some absent (after ++ tail)
  have right := splitOnce_some elsewhere rest
  rw [← same, List.append_assoc, List.cons_append, left] at right
  exact congrArg Prod.fst right

/-- Where one character of the separator occurs once, the separator does. -/
theorem rsplitOnce_mark {c : Char} {front after back : List Char} (absent : c ∉ front)
    (behind : c ∉ after ++ back) (nonempty : front ≠ []) :
    rsplitOnce (front ++ c :: after) (front ++ c :: (after ++ back)) = some ([], back) := by
  have later : ∀ l : List Char, c ∉ l → l.length < front.length →
      rsplitOnce (front ++ c :: after) (l ++ c :: (after ++ back)) = none := by
    intro l
    induction l with
    | nil =>
        intro elsewhere short
        have starts : ¬ (front ++ c :: after).isPrefixOf (c :: (after ++ back)) := fun starts =>
          nonempty (eq_of_prefix_mark (l := []) absent elsewhere
            (List.isPrefixOf_iff_prefix.mp starts))
        simp only [List.nil_append, rsplitOnce, if_neg starts,
          rsplitOnce_none (c := c) (List.mem_append_right front List.mem_cons_self) behind]
    | cons a l ih =>
        intro elsewhere short
        have starts : ¬ (front ++ c :: after).isPrefixOf (a :: (l ++ c :: (after ++ back))) := by
          intro starts
          have same :=
            eq_of_prefix_mark (l := a :: l) absent elsewhere (List.isPrefixOf_iff_prefix.mp starts)
          rw [same] at short
          exact Nat.lt_irrefl _ short
        have short' : l.length < front.length := Nat.lt_of_succ_lt short
        simp only [List.cons_append, rsplitOnce, if_neg starts,
          ih (fun member => elsewhere (List.mem_cons_of_mem a member)) short']
  obtain ⟨a, rest, rfl⟩ := List.exists_cons_of_ne_nil nonempty
  have last := later rest (fun member => absent (List.mem_cons_of_mem a member))
    (Nat.lt_succ_self _)
  have starts : (a :: (rest ++ c :: after)).isPrefixOf (a :: (rest ++ c :: (after ++ back))) :=
    List.isPrefixOf_iff_prefix.mpr ⟨back, by simp⟩
  have dropped : (a :: (rest ++ c :: (after ++ back))).drop (a :: (rest ++ c :: after)).length =
      back := by
    rw [← List.cons_append, ← List.cons_append, ← List.cons_append, ← List.append_assoc,
      List.drop_left]
  simp only [List.cons_append] at last ⊢
  simp only [rsplitOnce, last, if_pos starts, dropped]

/-- The length of the text in UTF-8. -/
def byteLength (text : List Char) : Nat := (text.map Char.utf8Size).sum

def digits? (text : List Char) : Option Nat :=
  if text.all Char.isDigit then some (Nat.ofDigitChars 10 text 0) else none

def signedDigits? : List Char → Option Int
  | '-' :: text => (digits? text).map fun n => -(n : Int)
  | '+' :: text => (digits? text).map Int.ofNat
  | text => (digits? text).map Int.ofNat

/-- A text of decimal digits only. -/
def Digits (l : List Char) : Prop := ∀ c ∈ l, c.isDigit = true

namespace Digits

theorem append {l m : List Char} (hl : Digits l) (hm : Digits m) : Digits (l ++ m) := by
  intro c member
  rcases List.mem_append.mp member with member | member
  · exact hl c member
  · exact hm c member

theorem zeros (n : Nat) : Digits (List.replicate n '0') := by
  intro c member
  rw [List.eq_of_mem_replicate member]
  rfl

theorem toDigits (n : Nat) : Digits (Nat.toDigits 10 n) := fun _ member =>
  Nat.isDigit_of_mem_toDigits (by decide) (by decide) member

theorem take {l : List Char} (h : Digits l) (n : Nat) : Digits (l.take n) := fun c member =>
  h c (List.mem_of_mem_take member)

theorem drop {l : List Char} (h : Digits l) (n : Nat) : Digits (l.drop n) := fun c member =>
  h c (List.mem_of_mem_drop member)

theorem not_mem {l : List Char} (h : Digits l) {c : Char} (other : c.isDigit = false) : c ∉ l := by
  intro member
  rw [h c member] at other
  cases other

theorem nil : Digits [] := fun _ member => absurd member List.not_mem_nil

theorem lt_pow {l : List Char} (h : Digits l) : Nat.ofDigitChars 10 l 0 < 10 ^ l.length := by
  induction l with
  | nil => simp
  | cons c cs ih =>
      have small : c.toNat - '0'.toNat < 10 := by
        have digit := h c List.mem_cons_self
        simp only [Char.isDigit, Bool.and_eq_true, decide_eq_true_eq] at digit
        have above : c.toNat ≤ 57 := digit.2
        have zero : '0'.toNat = 48 := rfl
        omega
      have rest := ih fun d member => h d (List.mem_cons_of_mem c member)
      rw [Nat.ofDigitChars_cons, Nat.mul_zero, Nat.zero_add, Nat.ofDigitChars_eq_ofDigitChars_zero,
        List.length_cons, Nat.pow_succ]
      calc 10 ^ cs.length * (c.toNat - '0'.toNat) + Nat.ofDigitChars 10 cs 0
          < 10 ^ cs.length * (c.toNat - '0'.toNat) + 10 ^ cs.length := Nat.add_lt_add_left rest _
        _ = 10 ^ cs.length * (c.toNat - '0'.toNat + 1) := by ring
        _ ≤ 10 ^ cs.length * 10 := Nat.mul_le_mul_left _ small

theorem byteLength {l : List Char} (h : Digits l) : byteLength l = l.length := by
  induction l with
  | nil => rfl
  | cons c cs ih =>
      have single : c.utf8Size = 1 := by
        have digit := h c List.mem_cons_self
        simp only [Char.isDigit, Bool.and_eq_true, decide_eq_true_eq] at digit
        unfold Char.utf8Size
        exact if_pos (Nat.le_trans digit.2 (by decide))
      have rest := ih fun d member => h d (List.mem_cons_of_mem c member)
      rw [DecimalText.byteLength, List.map_cons, List.sum_cons, single, List.length_cons]
      exact (congrArg (1 + ·) rest).trans (Nat.add_comm 1 _)

theorem digits? {l : List Char} (h : Digits l) : digits? l = some (Nat.ofDigitChars 10 l 0) :=
  if_pos (List.all_eq_true.mpr h)

end Digits

/-! ## Printers -/

/-- `coefficient · 10 ^ exponent` with a last digit that is not zero. -/
structure Shortest where
  significand : Nat
  exponent : Int
  trimmed : ¬ 10 ∣ significand
  deriving DecidableEq

/-- Digits around a point that is left out where nothing follows it. -/
def pointed (whole fraction : List Char) : List Char :=
  if fraction.isEmpty then whole else whole ++ '.' :: fraction

/-- An exponent with its sign and at least `width` digits. -/
def exponentText (width : Nat) (e : Int) : List Char :=
  let digits := Nat.toDigits 10 e.natAbs
  (if e < 0 then '-' else '+') :: (List.replicate (width - digits.length) '0' ++ digits)

namespace Shortest

variable (d : Shortest)

def value : ℚ := d.significand * 10 ^ d.exponent

def digits : List Char := Nat.toDigits 10 d.significand

/-- Where the point stands in the digits: the value is `0.digits · 10 ^ point`. -/
def point : Int := d.digits.length + d.exponent

def whole : List Char :=
  if d.point ≤ 0 then ['0']
  else d.digits.take d.point.toNat ++ List.replicate (d.point.toNat - d.digits.length) '0'

def fraction : List Char :=
  List.replicate (-d.point).toNat '0' ++ d.digits.drop d.point.toNat

def plain : List Char := pointed d.whole d.fraction

/-- One digit before the point. -/
def scientific (width : Nat) : List Char :=
  pointed (d.digits.take 1) (d.digits.drop 1) ++ 'e' :: exponentText width (d.point - 1)

/-- The digits of the plain text, read without its point. -/
def coefficient : Nat := d.significand * 10 ^ d.exponent.toNat

/-- The digits after the point of the plain text. -/
def scale : Nat := (-d.exponent).toNat

end Shortest

/-! ## What a reader finds -/

theorem split_pointed {whole fraction : List Char} (h : Digits whole) :
    (splitOnce '.' (pointed whole fraction)).1 = whole ∧
      (splitOnce '.' (pointed whole fraction)).2.getD [] = fraction := by
  have absent : '.' ∉ whole := h.not_mem rfl
  cases fraction with
  | nil => simp [pointed, splitOnce_none absent]
  | cons c cs => simp [pointed, splitOnce_some absent]

theorem not_mem_pointed {whole fraction : List Char} (hw : Digits whole) (hf : Digits fraction)
    {c : Char} (other : c.isDigit = false) (point : c ≠ '.') : c ∉ pointed whole fraction := by
  unfold pointed
  split
  · exact hw.not_mem other
  · simp [hw.not_mem other, hf.not_mem other, point]

/-- Digits before a point put a digit first. -/
theorem pointed_first {whole : List Char} (hw : Digits whole) (nonempty : whole ≠ [])
    (fraction rest : List Char) :
    ∃ c cs, pointed whole fraction ++ rest = c :: cs ∧ c.isDigit = true := by
  obtain ⟨c, cs, rfl⟩ := List.exists_cons_of_ne_nil nonempty
  unfold pointed
  split
  · exact ⟨c, cs ++ rest, rfl, hw c List.mem_cons_self⟩
  · exact ⟨c, cs ++ '.' :: fraction ++ rest, rfl, hw c List.mem_cons_self⟩

theorem not_mem_exponentText {c : Char} (other : c.isDigit = false) (minus : c ≠ '-')
    (plus : c ≠ '+') (width : Nat) (e : Int) : c ∉ exponentText width e := by
  have digits := ((Digits.zeros (width - (Nat.toDigits 10 e.natAbs).length)).append
    (Digits.toDigits e.natAbs)).not_mem other
  unfold exponentText
  split
  · exact List.not_mem_cons_of_ne_of_not_mem minus digits
  · exact List.not_mem_cons_of_ne_of_not_mem plus digits

theorem signedDigits?_exponentText (width : Nat) (e : Int) :
    signedDigits? (exponentText width e) = some e := by
  have digits : Digits (List.replicate (width - (Nat.toDigits 10 e.natAbs).length) '0' ++
      Nat.toDigits 10 e.natAbs) := (Digits.zeros _).append (Digits.toDigits _)
  have value :
      Nat.ofDigitChars 10 (List.replicate (width - (Nat.toDigits 10 e.natAbs).length) '0' ++
      Nat.toDigits 10 e.natAbs) 0 = e.natAbs := by
    rw [Nat.ofDigitChars_append, Nat.ofDigitChars_replicate_zero, Nat.mul_zero,
      Nat.ofDigitChars_ten_toDigits]
  by_cases negative : e < 0
  · have opposite : -(e.natAbs : Int) = e := by omega
    simp only [exponentText, if_pos negative, signedDigits?, digits.digits?, value]
    exact congrArg some opposite
  · have same : (e.natAbs : Int) = e := by omega
    simp only [exponentText, if_neg negative, signedDigits?, digits.digits?, value]
    exact congrArg some same

namespace Shortest

variable (d : Shortest)

theorem significand_pos : 0 < d.significand := by
  rcases Nat.eq_zero_or_pos d.significand with zero | pos
  · exact absurd (zero ▸ Nat.dvd_zero 10) d.trimmed
  · exact pos

theorem coefficient_pos : 0 < d.coefficient :=
  Nat.mul_pos d.significand_pos (Nat.pow_pos (by decide))

theorem value_eq_coefficient : d.value = d.coefficient / 10 ^ d.scale := by
  by_cases nonneg : 0 ≤ d.exponent
  · have none : d.scale = 0 := by rw [scale]; omega
    have power : d.exponent = (d.exponent.toNat : Int) := (Int.toNat_of_nonneg nonneg).symm
    rw [value, coefficient, none, power, zpow_natCast, Int.toNat_natCast]
    push_cast
    rw [pow_zero, div_one]
  · have power : d.exponent = -(d.scale : Int) := by rw [scale]; omega
    have none : d.exponent.toNat = 0 := by omega
    rw [value, coefficient, none, power, zpow_neg, zpow_natCast, pow_zero, Nat.mul_one,
      div_eq_mul_inv]

theorem digits_digits : Digits d.digits := Digits.toDigits _

theorem digits_length_pos : 0 < d.digits.length := Nat.length_toDigits_pos

theorem whole_digits : Digits d.whole := by
  unfold whole
  split
  · exact fun c member => by rw [List.mem_singleton.mp member]; rfl
  · exact (d.digits_digits.take _).append (Digits.zeros _)

theorem whole_ne_nil : d.whole ≠ [] := by
  have := d.digits_length_pos
  intro empty
  have length := congrArg List.length empty
  unfold whole at length
  split at length
  · cases length
  · simp only [List.length_append, List.length_take, List.length_replicate, List.length_nil]
      at length
    omega

theorem fraction_digits : Digits d.fraction := (Digits.zeros _).append (d.digits_digits.drop _)

theorem fraction_length : d.fraction.length = d.scale := by
  simp only [fraction, List.length_append, List.length_replicate, List.length_drop, scale, point]
  omega

/-- The plain text's digits are the significand and the zeros its exponent asks for. -/
theorem ofDigitChars_plain : Nat.ofDigitChars 10 (d.whole ++ d.fraction) 0 = d.coefficient := by
  have read : Nat.ofDigitChars 10 d.digits 0 = d.significand := Nat.ofDigitChars_ten_toDigits
  by_cases before : d.point ≤ 0
  · have none : d.point.toNat = 0 := by omega
    have negative : d.exponent.toNat = 0 := by
      have := d.digits_length_pos
      simp only [point] at before
      omega
    rw [whole, if_pos before, fraction, none, List.drop_zero, Nat.ofDigitChars_append,
      Nat.ofDigitChars_append, Nat.ofDigitChars_replicate_zero]
    simp [Nat.ofDigitChars_cons, read, coefficient, negative]
  · have none : (-d.point).toNat = 0 := by omega
    rw [whole, if_neg before, fraction, none, List.replicate_zero, List.nil_append]
    by_cases within : d.point.toNat ≤ d.digits.length
    · have noZeros : d.point.toNat - d.digits.length = 0 := by omega
      have negative : d.exponent.toNat = 0 := by
        simp only [point] at within
        omega
      rw [noZeros, List.replicate_zero, List.append_nil, List.take_append_drop, read, coefficient,
        negative, pow_zero, Nat.mul_one]
    · have zeros : d.point.toNat - d.digits.length = d.exponent.toNat := by
        simp only [point] at within ⊢
        omega
      rw [List.take_of_length_le (by omega), List.drop_of_length_le (by omega), List.append_nil,
        Nat.ofDigitChars_append, Nat.ofDigitChars_replicate_zero, read, zeros, coefficient,
        Nat.mul_comm]

theorem not_mem_plain {c : Char} (other : c.isDigit = false) (point : c ≠ '.') : c ∉ d.plain :=
  not_mem_pointed d.whole_digits d.fraction_digits other point

end Shortest

/-- What digits around a point and an exponent denote. -/
def denoted (whole fraction : List Char) (e : Int) : ℚ :=
  Nat.ofDigitChars 10 (whole ++ fraction) 0 * 10 ^ (e - fraction.length)

/-- Digits around a point, in units of `10 ^ -decimals`. -/
def fixedPoint (whole fraction : List Char) (decimals : Nat) : Nat :=
  Nat.ofDigitChars 10 whole 0 * 10 ^ decimals +
    Nat.ofDigitChars 10 fraction 0 * 10 ^ (decimals - fraction.length)

/-- With enough decimals the units are exact. -/
theorem denoted_mul_pow {whole fraction : List Char} {decimals : Nat}
    (fits : fraction.length ≤ decimals) :
    denoted whole fraction 0 * 10 ^ decimals = fixedPoint whole fraction decimals := by
  have scale : (10 : ℚ) ^ decimals = 10 ^ fraction.length * 10 ^ (decimals - fraction.length) := by
    rw [← pow_add, Nat.add_sub_cancel' fits]
  have cancel : (10 : ℚ) ^ (0 - (fraction.length : ℤ)) * 10 ^ fraction.length = 1 := by
    rw [zero_sub, zpow_neg, zpow_natCast, inv_mul_cancel₀ (by positivity)]
  rw [denoted, Nat.ofDigitChars_append, Nat.ofDigitChars_eq_ofDigitChars_zero, fixedPoint]
  push_cast
  rw [scale]
  linear_combination (10 ^ fraction.length * (Nat.ofDigitChars 10 whole 0 : ℚ) + Nat.ofDigitChars 10
    fraction 0) * 10 ^ (decimals - fraction.length) * cancel

/-- `{text:0>width}` -/
def padded (width : Nat) (text : List Char) : List Char :=
  List.replicate (width - text.length) '0' ++ text

/-- `trim_end_matches('0')` -/
def trimZeros (text : List Char) : List Char := text.rdropWhile fun c => c = '0'

theorem trimZeros_append (text : List Char) :
    ∃ zeros, text = trimZeros text ++ List.replicate zeros '0' := by
  have dropped : ∀ c ∈ text.rtakeWhile (fun c => c = '0'), c = '0' := fun c member =>
    of_decide_eq_true (List.mem_rtakeWhile_imp (p := fun c => decide (c = '0')) member)
  refine ⟨(text.rtakeWhile fun c => c = '0').length, ?_⟩
  rw [← List.eq_replicate_of_mem dropped]
  exact List.rdropWhile_append_rtakeWhile.symm

theorem Digits.padded {text : List Char} (h : Digits text) (width : Nat) :
    Digits (padded width text) :=
  (Digits.zeros _).append h

theorem Digits.trimZeros {text : List Char} (h : Digits text) : Digits (trimZeros text) :=
  fun c member =>
  h c ((List.rdropWhile_prefix _ text).subset member)

/-- A number below `10 ^ width`, padded to the width and trimmed, is that number over
    `10 ^ width` behind the point. -/
theorem fixedPoint_trimZeros {n width : Nat} (small : n < 10 ^ width) (positive : 0 < width)
    (whole : List Char) : (trimZeros (padded width (Nat.toDigits 10 n))).length ≤ width ∧
      fixedPoint whole (trimZeros (padded width (Nat.toDigits 10 n))) width =
        Nat.ofDigitChars 10 whole 0 * 10 ^ width + n := by
  have short : (Nat.toDigits 10 n).length ≤ width :=
    (Nat.length_toDigits_le_iff (by decide) positive).mpr small
  have full : (padded width (Nat.toDigits 10 n)).length = width := by
    rw [padded, List.length_append, List.length_replicate]
    omega
  have value : Nat.ofDigitChars 10 (padded width (Nat.toDigits 10 n)) 0 = n := by
    rw [padded, Nat.ofDigitChars_append, Nat.ofDigitChars_replicate_zero, Nat.mul_zero,
      Nat.ofDigitChars_ten_toDigits]
  obtain ⟨zeros, split⟩ := trimZeros_append (padded width (Nat.toDigits 10 n))
  have length := congrArg List.length split
  rw [full, List.length_append, List.length_replicate] at length
  rw [split, Nat.ofDigitChars_append, Nat.ofDigitChars_replicate_zero] at value
  refine ⟨by omega, ?_⟩
  have rest : width - (trimZeros (padded width (Nat.toDigits 10 n))).length = zeros := by omega
  rw [fixedPoint, rest, Nat.mul_comm _ (10 ^ zeros), value]

/-- A zero after the point changes nothing. -/
theorem denoted_zero (whole : List Char) (e : Int) :
    denoted whole ['0'] e = denoted whole [] e := by
  have step : Nat.ofDigitChars 10 (whole ++ ['0']) 0 = 10 * Nat.ofDigitChars 10 whole 0 := by
    simp [Nat.ofDigitChars_append, Nat.ofDigitChars_cons]
  have power : (10 : ℚ) ^ (e - 1) = 10 ^ e / 10 := by
    rw [zpow_sub₀ (by norm_num), zpow_one]
  simp only [denoted, step, List.append_nil, List.length_singleton, List.length_nil, Nat.cast_one,
    Nat.cast_zero, sub_zero, power]
  push_cast
  ring

namespace Shortest

variable (d : Shortest)

theorem denoted_plain : denoted d.whole d.fraction 0 = d.value := by
  rw [denoted, d.ofDigitChars_plain, d.fraction_length, d.value_eq_coefficient, zero_sub, zpow_neg,
    zpow_natCast, div_eq_mul_inv]

theorem denoted_scientific :
    denoted (d.digits.take 1) (d.digits.drop 1) (d.point - 1) = d.value := by
  have exponent : d.point - 1 - (d.digits.drop 1).length = d.exponent := by
    have := d.digits_length_pos
    rw [List.length_drop, point]
    omega
  rw [denoted, List.take_append_drop, exponent, digits, Nat.ofDigitChars_ten_toDigits, value]

end Shortest

end DecimalText
