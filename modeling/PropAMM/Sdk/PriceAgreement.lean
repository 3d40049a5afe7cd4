import PropAMM.Lib.HalfUp
import PropAMM.Sdk.PriceRungs

/-! # The three SDKs price a rung alike

A number's text differs between the languages, and so do the digits and the exponent a
reader takes from it; the rational they denote does not, and the three ways of rounding
it to base units agree. Each SDK's levels are those of the exact amounts rounded half up.
-/

namespace PropAMM.Prices

open DecimalText HalfUp

/-- The field of a rung object that holds a positive finite number. -/
def Value.positive? (entry : Value) (key : String) : Option Shortest :=
  match entry.get? key with
  | some (.number (.finite false magnitude _ _)) => some magnitude
  | _ => none

/-- An entry with a positive finite volume and price, the product of whose digits fits
    256 bits. -/
structure Rung where
  entry : Value
  volume : Shortest
  price : Shortest
  cumVolume : entry.positive? "cumVolume" = some volume
  priced : entry.positive? "price" = some price
  fits : volume.coefficient * price.coefficient < 2 ^ 256

/-- Two exact amounts as a level: nothing when the rounded input is zero or either
    rounded amount is past a uint256. -/
def exactLevel (amountIn amountOut : ℚ) (decimalsIn decimalsOut : Nat) : Option PriceLevel :=
  let input := halfUp (amountIn * 10 ^ decimalsIn)
  let output := halfUp (amountOut * 10 ^ decimalsOut)
  if input = 0 ∨ maxUint256 < input ∨ maxUint256 < output then none
  else some { amountIn := input, amountOut := output }

namespace Rung

def bid (d1 d2 : Nat) (r : Rung) : Option PriceLevel :=
  exactLevel r.volume.value (r.volume.value * r.price.value) d1 d2

def ask (d1 d2 : Nat) (r : Rung) : Option PriceLevel :=
  exactLevel (r.volume.value * r.price.value) r.volume.value d2 d1

end Rung

/-- A rounded amount that fits a uint256. -/
def fitting (n : Nat) : Option Nat := if n ≤ maxUint256 then some n else none

theorem exactLevel_eq (amountIn amountOut : ℚ) (decimalsIn decimalsOut : Nat) :
    exactLevel amountIn amountOut decimalsIn decimalsOut =
      ((fitting (halfUp (amountIn * 10 ^ decimalsIn))).filter (· ≠ 0)).bind fun amountIn =>
        (fitting (halfUp (amountOut * 10 ^ decimalsOut))).bind fun amountOut =>
          some { amountIn, amountOut } := by
  simp only [exactLevel, fitting]
  by_cases input : halfUp (amountIn * 10 ^ decimalsIn) ≤ maxUint256
  · by_cases zero : halfUp (amountIn * 10 ^ decimalsIn) = 0
    · simp [zero, Option.filter_some]
    · by_cases output : halfUp (amountOut * 10 ^ decimalsOut) ≤ maxUint256
      · simp [zero, input, output, Option.filter_some]
      · simp [zero, input, output, Nat.not_le.mp output]
  · simp [input, Nat.not_le.mp input]

/-- The two SDKs that round both amounts before they look at either. -/
theorem levelOf_fitting (amountIn amountOut : ℚ) (decimalsIn decimalsOut : Nat) :
    levelOf (fitting (halfUp (amountIn * 10 ^ decimalsIn)))
        (fitting (halfUp (amountOut * 10 ^ decimalsOut))) =
      exactLevel amountIn amountOut decimalsIn decimalsOut := by
  rw [exactLevel_eq]
  cases fitting (halfUp (amountIn * 10 ^ decimalsIn)) with
  | none => rfl
  | some baseIn =>
      cases fitting (halfUp (amountOut * 10 ^ decimalsOut)) with
      | none => simp [levelOf]
      | some baseOut => by_cases zero : baseIn = 0 <;> simp [levelOf, zero, Option.filter_some]

theorem fitting_of_large {n : Nat} (large : 2 ^ 256 ≤ n) : fitting n = none := by
  have past : ¬ n ≤ maxUint256 := by
    unfold maxUint256
    omega
  exact if_neg past

theorem filter_fitting (n : Nat) : (some n).filter (· ≤ maxUint256) = fitting n := by
  by_cases h : n ≤ maxUint256 <;> simp [fitting, h, Option.filter_some]

/-- A list of rungs read and rounded entry by entry. -/
theorem filterMap_rungs {δ : Type} {rung : Value → Option δ} {level : δ → Option PriceLevel}
    {expected : Rung → Option PriceLevel}
    (each : ∀ r : Rung, (rung r.entry).bind level = expected r) (rs : List Rung) :
    ((rs.map Rung.entry).filterMap rung).filterMap level = rs.filterMap expected := by
  rw [List.filterMap_map, List.filterMap_filterMap]
  exact congrArg (fun f => rs.filterMap f) (funext each)

/-- Rust and TypeScript read a number that is finite and not negative. -/
theorem Value.admitted (magnitude : Shortest) (integer : Bool)
    (integral : integer = true → 0 ≤ magnitude.exponent) :
    (Value.number (.finite false magnitude integer integral)).asNumber?.filter
        (fun n => n.isFinite && !n.isNegative) =
      some (.finite false magnitude integer integral) := rfl

theorem Value.positive?_eq {entry : Value} {key : String} {magnitude : Shortest}
    (h : entry.positive? key = some magnitude) :
    ∃ integer integral, entry.get? key =
      some (.number (.finite false magnitude integer integral)) := by
  unfold Value.positive? at h
  split at h
  · rename_i integer integral field
    cases h
    exact ⟨integer, integral, field⟩
  · cases h

end PropAMM.Prices

/-! ## Rust -/

namespace PropAMM.Rust.Prices

open DecimalText HalfUp PropAMM.Prices

namespace Decimal

def value (d : Decimal) : ℚ := d.digits / 10 ^ d.scale

/-- The plain text gives back the digits and the places it prints. -/
theorem fromJson_finite (magnitude : Shortest) (integer : Bool)
    (integral : integer = true → 0 ≤ magnitude.exponent) :
    fromJson (.number (.finite false magnitude integer integral)) =
      ofDigits magnitude.coefficient magnitude.scale := by
  obtain ⟨whole, fraction⟩ := @split_pointed _ magnitude.fraction magnitude.whole_digits
  have digits := (magnitude.whole_digits.append magnitude.fraction_digits).digits?
  have text : display (.finite false magnitude integer integral) = magnitude.plain := rfl
  have admitted := Value.admitted magnitude integer integral
  simp only [fromJson, admitted, text, Shortest.plain, whole, fraction, digits,
    magnitude.ofDigitChars_plain, magnitude.fraction_length, Option.bind_eq_bind,
    Option.bind_some]

theorem value_shift (d : Decimal) (decimals : Nat) :
    d.value * 10 ^ decimals = d.digits * 10 ^ ((decimals : Int) - d.scale) := by
  rw [value, zpow_sub₀ (by norm_num), zpow_natCast, zpow_natCast]
  ring

theorem ten_pow_past {n : Nat} (h : ¬ 10 ^ n < 2 ^ 256) : 2 * 2 ^ 256 < 10 ^ n := by
  have past : 77 < n := by
    by_contra within
    have small : 10 ^ n ≤ 10 ^ 77 := Nat.pow_le_pow_right (by decide) (by omega)
    exact h (Nat.lt_of_le_of_lt small (by norm_num))
  have large : 10 ^ 78 ≤ 10 ^ n := Nat.pow_le_pow_right (by decide) past
  exact Nat.lt_of_lt_of_le (by norm_num) large

theorem baseUnits_eq (d : Decimal) (pos : 0 < d.digits) (decimals : Nat) :
    d.baseUnits decimals = fitting (halfUp (d.value * 10 ^ decimals)) := by
  rw [value_shift]
  by_cases up : d.scale ≤ decimals
  · have shift : ((decimals : Int) - d.scale).toNat = decimals - d.scale := by omega
    rw [shift_left _ (by omega), shift, baseUnits, if_pos up]
    by_cases power : 10 ^ (decimals - d.scale) < 2 ^ 256
    · simp only [pow10, checked, if_pos power, Option.bind_eq_bind, Option.bind_some, fitting,
        maxUint256]
      congr 1
      exact propext (by omega)
    · have past : 2 ^ 256 ≤ d.digits * 10 ^ (decimals - d.scale) :=
        Nat.le_trans (Nat.not_lt.mp power) (Nat.le_mul_of_pos_left _ pos)
      rw [fitting_of_large past]
      simp only [pow10, checked, if_neg power]
      rfl
  · have shift : (-((decimals : Int) - d.scale)).toNat = d.scale - decimals := by omega
    rw [shift_right _ (by omega), shift, baseUnits, if_neg up]
    have divisor : 0 < 10 ^ (d.scale - decimals) := Nat.pow_pos (by decide)
    by_cases power : 10 ^ (d.scale - decimals) < 2 ^ 256
    · have quotient : halfUp (d.digits / (10 ^ (d.scale - decimals) : ℕ)) ≤ maxUint256 := by
        have fits := d.fits
        have tenth : 10 ≤ 10 ^ (d.scale - decimals) := Nat.le_self_pow (by omega) 10
        have smaller : d.digits / 10 ^ (d.scale - decimals) ≤ d.digits / 10 :=
          Nat.div_le_div_left tenth (by decide)
        rw [← remainder d.digits divisor]
        unfold maxUint256
        split
        · omega
        · omega
      simp only [pow10, checked, if_pos power]
      rw [remainder d.digits divisor, fitting, if_pos quotient]
    · have tiny : 2 * d.digits < 10 ^ (d.scale - decimals) :=
        Nat.lt_of_le_of_lt (Nat.mul_le_mul_left 2 d.fits.le) (ten_pow_past power)
      simp only [pow10, checked, if_neg power]
      rw [HalfUp.eq_zero tiny]
      rfl

end Decimal

theorem level_eq {a b : Decimal} (ha : 0 < a.digits) (hb : 0 < b.digits)
    (decimalsIn decimalsOut : Nat) :
    level decimalsIn decimalsOut (a, b) = exactLevel a.value b.value decimalsIn decimalsOut := by
  rw [exactLevel_eq]
  simp only [level, a.baseUnits_eq ha, b.baseUnits_eq hb, Option.bind_eq_bind]

/-- A rung is read as its volume and its exact product. -/
theorem rung_eq (r : Rung) :
    ∃ volume quote, rung r.entry = some (volume, quote) ∧ 0 < volume.digits ∧ 0 < quote.digits ∧
      volume.value = r.volume.value ∧ quote.value = r.volume.value * r.price.value := by
  obtain ⟨_, _, cumVolume⟩ := Value.positive?_eq r.cumVolume
  obtain ⟨_, _, priced⟩ := Value.positive?_eq r.priced
  have volumePos := r.volume.coefficient_pos
  have pricePos := r.price.coefficient_pos
  have volumeFits : r.volume.coefficient < 2 ^ 256 :=
    Nat.lt_of_le_of_lt (Nat.le_mul_of_pos_right _ pricePos) r.fits
  have priceFits : r.price.coefficient < 2 ^ 256 :=
    Nat.lt_of_le_of_lt (Nat.le_mul_of_pos_left _ volumePos) r.fits
  refine ⟨⟨r.volume.coefficient, r.volume.scale, volumeFits⟩,
    ⟨r.volume.coefficient * r.price.coefficient, r.volume.scale + r.price.scale, r.fits⟩,
    ?_, volumePos, Nat.mul_pos volumePos pricePos, r.volume.value_eq_coefficient.symm, ?_⟩
  · simp only [rung, cumVolume, priced, Option.bind_some, Decimal.fromJson_finite,
      Decimal.ofDigits, dif_pos volumeFits, dif_pos priceFits, Decimal.times, dif_pos r.fits,
      Option.bind_eq_bind]
  · rw [r.volume.value_eq_coefficient, r.price.value_eq_coefficient]
    simp only [Decimal.value]
    push_cast
    rw [pow_add, div_mul_div_comm]

theorem bids_eq (rs : List Rung) (d1 d2 : Nat) :
    bids (some (.arr (rs.map Rung.entry))) d1 d2 = rs.filterMap (Rung.bid d1 d2) := by
  refine filterMap_rungs (fun r => ?_) rs
  obtain ⟨volume, quote, read, volumePos, quotePos, volumeValue, quoteValue⟩ := rung_eq r
  rw [read, Option.bind_some, level_eq volumePos quotePos, volumeValue, quoteValue]
  rfl

theorem asks_eq (rs : List Rung) (d1 d2 : Nat) :
    asks (some (.arr (rs.map Rung.entry))) d1 d2 = rs.filterMap (Rung.ask d1 d2) := by
  rw [asks, levels, List.filterMap_map]
  refine filterMap_rungs (fun r => ?_) rs
  obtain ⟨volume, quote, read, volumePos, quotePos, volumeValue, quoteValue⟩ := rung_eq r
  rw [read, Option.bind_some, Function.comp_apply, level_eq quotePos volumePos, volumeValue,
    quoteValue]
  rfl

end PropAMM.Rust.Prices

/-! ## TypeScript -/

namespace PropAMM.TypeScript.Prices

open DecimalText HalfUp PropAMM.Prices

theorem split_none {separator : Char} {l : List Char} (absent : separator ∉ l) :
    split separator l = (l, none) := by
  simp [split, List.splitOn_eq_singleton absent]

theorem split_some {separator : Char} {l rest : List Char} (before : separator ∉ l)
    (after : separator ∉ rest) : split separator (l ++ separator :: rest) = (l, some rest) := by
  simp [split, List.splitOn_append_cons_self, List.splitOn_eq_singleton before,
    List.splitOn_eq_singleton after]

theorem split_pointed {whole fraction : List Char} (hw : Digits whole) (hf : Digits fraction) :
    (split '.' (pointed whole fraction)).1 = whole ∧
      (split '.' (pointed whole fraction)).2.getD [] = fraction := by
  have before : '.' ∉ whole := hw.not_mem rfl
  have after : '.' ∉ fraction := hf.not_mem rfl
  cases fraction with
  | nil => simp [pointed, split_none before]
  | cons c cs => simp [pointed, split_some before after]

namespace Decimal

def value (d : Decimal) : ℚ := d.digits * 10 ^ (-d.scale)

end Decimal

/-- A text of digits around a point with an exponent, or none, is read as what it denotes. -/
theorem toDecimal_parts {magnitude : Shortest} {integer : Bool}
    {integral : integer = true → 0 ≤ magnitude.exponent} {whole fraction : List Char}
    {exponentPart : Option (List Char)} {e : Int} (hw : Digits whole) (hf : Digits fraction)
    (parts : split 'e' (toString (.finite false magnitude integer integral)) =
      (pointed whole fraction, exponentPart))
    (exponent : signedDigits? (exponentPart.getD ['0']) = some e) :
    ∃ d, toDecimal (.number (.finite false magnitude integer integral)) = some d ∧
      d.value = denoted whole fraction e := by
  obtain ⟨before, after⟩ := split_pointed hw hf
  refine ⟨⟨Nat.ofDigitChars 10 (whole ++ fraction) 0, fraction.length - e⟩, ?_, ?_⟩
  · have admitted := Value.admitted magnitude integer integral
    simp only [toDecimal, admitted, parts, before, after, (hw.append hf).digits?, exponent,
      Option.bind_eq_bind, Option.bind_some]
  · rw [Decimal.value, denoted, neg_sub]

theorem toString_finite (magnitude : Shortest) (integer : Bool)
    (integral : integer = true → 0 ≤ magnitude.exponent) :
    toString (.finite false magnitude integer integral) =
      if -6 < magnitude.point ∧ magnitude.point ≤ 21 then magnitude.plain
      else magnitude.scientific 1 := rfl

theorem toDecimal_finite (magnitude : Shortest) (integer : Bool)
    (integral : integer = true → 0 ≤ magnitude.exponent) :
    ∃ d, toDecimal (.number (.finite false magnitude integer integral)) = some d ∧
      d.value = magnitude.value := by
  by_cases window : -6 < magnitude.point ∧ magnitude.point ≤ 21
  · have parts : split 'e' (toString (.finite false magnitude integer integral)) =
        (pointed magnitude.whole magnitude.fraction, none) := by
      rw [toString_finite, if_pos window]
      exact split_none (magnitude.not_mem_plain rfl (by decide))
    rw [← magnitude.denoted_plain]
    exact toDecimal_parts magnitude.whole_digits magnitude.fraction_digits parts rfl
  · have whole := magnitude.digits_digits.take 1
    have fraction := magnitude.digits_digits.drop 1
    have parts : split 'e' (toString (.finite false magnitude integer integral)) =
        (pointed (magnitude.digits.take 1) (magnitude.digits.drop 1),
          some (exponentText 1 (magnitude.point - 1))) := by
      rw [toString_finite, if_neg window]
      exact split_some (not_mem_pointed whole fraction rfl (by decide))
        (not_mem_exponentText rfl (by decide) (by decide) 1 _)
    rw [← magnitude.denoted_scientific]
    exact toDecimal_parts whole fraction parts (signedDigits?_exponentText 1 _)

theorem toBaseUnits_eq (d : Decimal) (decimals : Nat) :
    toBaseUnits d decimals = fitting (halfUp (d.value * 10 ^ decimals)) := by
  have shifted : d.value * 10 ^ decimals = d.digits * 10 ^ ((decimals : Int) - d.scale) := by
    rw [Decimal.value, mul_assoc, ← zpow_natCast, ← zpow_add₀ (by norm_num), neg_add_eq_sub]
  rw [shifted, toBaseUnits]
  by_cases up : 0 ≤ (decimals : Int) - d.scale
  · simp only [if_pos up, shift_left _ up, fitting]
  · have right : (decimals : Int) - d.scale < 0 := by omega
    have even : 2 ∣ 10 ^ (-((decimals : Int) - d.scale)).toNat :=
      dvd_pow (by decide) (by omega)
    simp only [if_neg up, shift_right _ right, fitting,
      half_divisor d.digits (Nat.pow_pos (by decide)) even]

theorem level_eq (a b : Decimal) (decimalsIn decimalsOut : Nat) :
    level decimalsIn decimalsOut (a, b) = exactLevel a.value b.value decimalsIn decimalsOut := by
  simp only [level, toBaseUnits_eq, levelOf_fitting]

theorem rung_eq (r : Rung) :
    ∃ volume quote, rung r.entry = some (volume, quote) ∧
      volume.value = r.volume.value ∧ quote.value = r.volume.value * r.price.value := by
  obtain ⟨volumeInteger, volumeIntegral, cumVolume⟩ := Value.positive?_eq r.cumVolume
  obtain ⟨priceInteger, priceIntegral, priced⟩ := Value.positive?_eq r.priced
  obtain ⟨volume, readVolume, volumeValue⟩ :=
    toDecimal_finite r.volume volumeInteger volumeIntegral
  obtain ⟨price, readPrice, priceValue⟩ := toDecimal_finite r.price priceInteger priceIntegral
  refine ⟨volume, ⟨volume.digits * price.digits, volume.scale + price.scale⟩, ?_, volumeValue, ?_⟩
  · simp only [rung, cumVolume, priced, Option.bind_some, readVolume, readPrice,
      Option.bind_eq_bind]
  · rw [← volumeValue, ← priceValue]
    simp only [Decimal.value, neg_add]
    push_cast
    rw [zpow_add₀ (by norm_num), mul_mul_mul_comm]

theorem bids_eq (rs : List Rung) (d1 d2 : Nat) :
    bids (some (.arr (rs.map Rung.entry))) d1 d2 = rs.filterMap (Rung.bid d1 d2) := by
  refine filterMap_rungs (fun r => ?_) rs
  obtain ⟨volume, quote, read, volumeValue, quoteValue⟩ := rung_eq r
  rw [read, Option.bind_some, level_eq, volumeValue, quoteValue]
  rfl

theorem asks_eq (rs : List Rung) (d1 d2 : Nat) :
    asks (some (.arr (rs.map Rung.entry))) d1 d2 = rs.filterMap (Rung.ask d1 d2) := by
  rw [asks, toLevels, List.filterMap_map]
  refine filterMap_rungs (fun r => ?_) rs
  obtain ⟨volume, quote, read, volumeValue, quoteValue⟩ := rung_eq r
  rw [read, Option.bind_some, Function.comp_apply, level_eq, volumeValue, quoteValue]
  rfl

end PropAMM.TypeScript.Prices

/-! ## Python -/

namespace PropAMM.Python.Prices

open DecimalText HalfUp PropAMM.Prices

theorem digitCount_le_iff {n k : Nat} (pos : 0 < k) : digitCount n ≤ k ↔ n < 10 ^ k :=
  Nat.length_toDigits_le_iff (by decide) pos

theorem ten_pow_digitCount_le {n : Nat} (pos : 0 < n) : 10 ^ (digitCount n - 1) ≤ n := by
  rcases Nat.eq_zero_or_pos (digitCount n - 1) with one | more
  · rw [one]
    exact pos
  · by_contra below
    have := (digitCount_le_iff more).mpr (Nat.not_le.mp below)
    omega

namespace Decimal

def value (d : Decimal) : ℚ := d.coefficient * 10 ^ d.exponent

theorem fix_of_short {d : Decimal} (short : d.coefficient < 10 ^ prec) : d.fix = d := by
  have dropped : digitCount d.coefficient - prec = 0 :=
    Nat.sub_eq_zero_of_le ((digitCount_le_iff (by decide)).mpr short)
  simp only [fix, dropped, if_true]

theorem rescale_eq (d : Decimal) : d.rescale = halfUp d.value := by
  unfold rescale value
  by_cases left : 0 ≤ d.exponent
  · rw [if_pos left, shift_left _ left]
  · rw [if_neg left, shift_right _ (by omega)]
    exact twice_remainder d.coefficient (Nat.pow_pos (by decide))

theorem ten_pow_prec : 2 ^ 256 ≤ 10 ^ prec := by norm_num [prec]

/-- `InvalidOperation` is raised on amounts past a uint256 only. -/
theorem quantize_eq {d : Decimal} (pos : 0 < d.coefficient) :
    d.quantize.filter (· ≤ maxUint256) = fitting (halfUp d.value) := by
  rw [quantize, if_neg pos.ne', rescale_eq]
  by_cases long : (prec : Int) < (digitCount d.coefficient : Int) - 1 + d.exponent + 1
  · have leading : (10 : ℚ) ^ (digitCount d.coefficient - 1) ≤ d.coefficient := by
      exact_mod_cast ten_pow_digitCount_le pos
    have count : 0 < digitCount d.coefficient := Nat.length_toDigits_pos
    have large : ((10 ^ prec : Nat) : ℚ) ≤ d.value := by
      calc ((10 ^ prec : Nat) : ℚ) = 10 ^ (prec : Int) := by
            rw [zpow_natCast]
            push_cast
            rfl
        _ ≤ 10 ^ (((digitCount d.coefficient - 1 : Nat) : Int) + d.exponent) :=
            zpow_le_zpow_right₀ (by norm_num) (by omega)
        _ = 10 ^ (digitCount d.coefficient - 1) * 10 ^ d.exponent := by
            rw [zpow_add₀ (by norm_num), zpow_natCast]
        _ ≤ d.value := mul_le_mul_of_nonneg_right leading (zpow_nonneg (by norm_num) _)
    rw [if_pos long, fitting_of_large (Nat.le_trans ten_pow_prec (natCast_le large))]
    rfl
  · rw [if_neg long]
    by_cases digits : digitCount (halfUp d.value) ≤ prec
    · rw [if_neg (Nat.not_lt.mpr digits), filter_fitting]
    · have large : 10 ^ prec ≤ halfUp d.value := by
        by_contra below
        exact digits ((digitCount_le_iff (by decide)).mpr (Nat.not_le.mp below))
      rw [if_pos (Nat.not_le.mp digits), fitting_of_large (Nat.le_trans ten_pow_prec large)]
      rfl

end Decimal

theorem baseUnits_eq {d : Decimal} (pos : 0 < d.coefficient) (short : d.coefficient < 10 ^ prec)
    (decimals : Nat) :
    baseUnits d decimals = fitting (halfUp (d.value * 10 ^ decimals)) := by
  have shifted : d.value * 10 ^ decimals =
      (⟨d.coefficient, d.exponent + decimals⟩ : Decimal).value := by
    simp only [Decimal.value]
    rw [zpow_add₀ (by norm_num), zpow_natCast, mul_assoc]
  have exact : d.scaleb decimals = ⟨d.coefficient, d.exponent + decimals⟩ :=
    Decimal.fix_of_short short
  have rounded : (⟨d.coefficient, d.exponent + decimals⟩ : Decimal).quantize.filter
      (· ≤ maxUint256) = _ := Decimal.quantize_eq pos
  rw [baseUnits, exact, rounded, shifted]

/-- An unsigned text of digits around a point with an exponent, or none, is read as what
    it denotes. -/
theorem decimal_parts {n : Number} {whole fraction rest : List Char}
    {exponentPart : Option (List Char)} {e : Int} (hw : Digits whole) (hf : Digits fraction)
    (nonempty : whole ≠ []) (text : repr n = pointed whole fraction ++ rest)
    (parts : splitOnce 'e' (pointed whole fraction ++ rest) =
      (pointed whole fraction, exponentPart))
    (exponent : signedDigits? (exponentPart.getD ['0']) = some e) :
    ∃ d, decimal (.number n) = some d ∧ d.value = denoted whole fraction e ∧
      d.coefficient = Nat.ofDigitChars 10 (whole ++ fraction) 0 := by
  obtain ⟨before, after⟩ := @DecimalText.split_pointed _ fraction hw
  obtain ⟨c, cs, first, digit⟩ := pointed_first hw nonempty fraction rest
  have unsigned : c ≠ '-' := by
    rintro rfl
    cases digit
  have read : decimal (.number n) = Decimal.ofText (pointed whole fraction ++ rest) := by
    rw [decimal, Value.asNumber?, Option.bind_eq_bind, Option.bind_some, text, first]
    split
    · rename_i same
      exact absurd (List.cons.inj same).1 unsigned
    · rfl
  refine ⟨⟨Nat.ofDigitChars 10 (whole ++ fraction) 0, e - fraction.length⟩, ?_, rfl, rfl⟩
  simp only [read, Decimal.ofText, parts, before, after, (hw.append hf).digits?, exponent,
    Option.bind_eq_bind, Option.bind_some]

theorem repr_finite (magnitude : Shortest) (integer : Bool)
    (integral : integer = true → 0 ≤ magnitude.exponent) :
    repr (.finite false magnitude integer integral) =
      if integer then magnitude.plain
      else if -4 < magnitude.point ∧ magnitude.point ≤ 16 then
        if magnitude.fraction.isEmpty then magnitude.plain ++ ['.', '0'] else magnitude.plain
      else magnitude.scientific 2 := rfl

/-- The number is read as the exact decimal, with a coefficient at most ten times its
    plain digits: a float's text ends in a zero where it would have no point. -/
def Reads (n : Number) (magnitude : Shortest) : Prop :=
  ∃ d, decimal (.number n) = some d ∧ d.value = magnitude.value ∧ 0 < d.coefficient ∧
    d.coefficient ≤ 10 * magnitude.coefficient

section Texts

variable {n : Number} {magnitude : Shortest}

theorem reads_plain (text : repr n = magnitude.plain) : Reads n magnitude := by
  have pos := magnitude.coefficient_pos
  have absent : 'e' ∉ magnitude.plain := magnitude.not_mem_plain rfl (by decide)
  have parts : splitOnce 'e' (magnitude.plain ++ []) = (magnitude.plain, none) := by
    rw [List.append_nil, splitOnce_none absent]
  obtain ⟨d, read, value, coefficient⟩ := decimal_parts magnitude.whole_digits
    magnitude.fraction_digits magnitude.whole_ne_nil (text.trans (List.append_nil _).symm) parts rfl
  rw [magnitude.ofDigitChars_plain] at coefficient
  exact ⟨d, read, value.trans magnitude.denoted_plain, by omega, by omega⟩

theorem reads_point_zero (whole : magnitude.fraction = [])
    (text : repr n = magnitude.plain ++ ['.', '0']) : Reads n magnitude := by
  have pos := magnitude.coefficient_pos
  have zero : Digits ['0'] := Digits.zeros 1
  have pointedText : repr n = pointed magnitude.whole ['0'] ++ [] := by
    rw [text, Shortest.plain, whole]
    simp [pointed]
  have absent : 'e' ∉ pointed magnitude.whole ['0'] :=
    not_mem_pointed magnitude.whole_digits zero rfl (by decide)
  have parts : splitOnce 'e' (pointed magnitude.whole ['0'] ++ []) =
      (pointed magnitude.whole ['0'], none) := by
    rw [List.append_nil, splitOnce_none absent]
  obtain ⟨d, read, value, coefficient⟩ :=
    decimal_parts magnitude.whole_digits zero magnitude.whole_ne_nil pointedText parts rfl
  have denotes : denoted magnitude.whole ['0'] 0 = magnitude.value := by
    rw [denoted_zero, ← whole, magnitude.denoted_plain]
  have digits := magnitude.ofDigitChars_plain
  rw [whole, List.append_nil] at digits
  have ten : d.coefficient = 10 * magnitude.coefficient := by
    rw [coefficient, Nat.ofDigitChars_append, digits]
    simp [Nat.ofDigitChars_cons]
  exact ⟨d, read, value.trans denotes, by omega, by omega⟩

theorem reads_scientific {width : Nat} (text : repr n = magnitude.scientific width) :
    Reads n magnitude := by
  have pos := magnitude.significand_pos
  have whole := magnitude.digits_digits.take 1
  have nonempty : magnitude.digits.take 1 ≠ [] := by
    have := magnitude.digits_length_pos
    intro empty
    have length := congrArg List.length empty
    rw [List.length_take, List.length_nil] at length
    omega
  have fraction := magnitude.digits_digits.drop 1
  have parts : splitOnce 'e' (magnitude.scientific width) =
      (pointed (magnitude.digits.take 1) (magnitude.digits.drop 1),
        some (exponentText width (magnitude.point - 1))) :=
    splitOnce_some (not_mem_pointed whole fraction rfl (by decide)) _
  obtain ⟨d, read, value, coefficient⟩ := decimal_parts whole fraction nonempty text parts
    (signedDigits?_exponentText width _)
  have digits : d.coefficient = magnitude.significand := by
    rw [coefficient, List.take_append_drop]
    exact Nat.ofDigitChars_ten_toDigits
  have plain : magnitude.significand ≤ magnitude.coefficient :=
    Nat.le_mul_of_pos_right _ (Nat.pow_pos (by decide))
  exact ⟨d, read, value.trans magnitude.denoted_scientific, by omega, by omega⟩

end Texts

theorem reads_finite (magnitude : Shortest) (integer : Bool)
    (integral : integer = true → 0 ≤ magnitude.exponent) :
    Reads (.finite false magnitude integer integral) magnitude := by
  have text := repr_finite magnitude integer integral
  by_cases int : integer = true
  · rw [if_pos int] at text
    exact reads_plain text
  · rw [if_neg int] at text
    by_cases window : -4 < magnitude.point ∧ magnitude.point ≤ 16
    · rw [if_pos window] at text
      by_cases whole : magnitude.fraction.isEmpty = true
      · rw [if_pos whole] at text
        exact reads_point_zero (List.isEmpty_iff.mp whole) text
      · rw [if_neg whole] at text
        exact reads_plain text
    · rw [if_neg window] at text
      exact reads_scientific text

theorem level_eq {a b : Decimal} (aPos : 0 < a.coefficient) (aShort : a.coefficient < 10 ^ prec)
    (bPos : 0 < b.coefficient) (bShort : b.coefficient < 10 ^ prec)
    (decimalsIn decimalsOut : Nat) :
    level decimalsIn decimalsOut (a, b) = exactLevel a.value b.value decimalsIn decimalsOut := by
  simp only [level, baseUnits_eq aPos aShort, baseUnits_eq bPos bShort, levelOf_fitting]

/-- The context's hundred digits hold every product that fits 256 bits. -/
theorem rung_eq (r : Rung) :
    ∃ volume quote, rung r.entry = some (volume, quote) ∧
      (0 < volume.coefficient ∧ volume.coefficient < 10 ^ prec) ∧
      (0 < quote.coefficient ∧ quote.coefficient < 10 ^ prec) ∧
      volume.value = r.volume.value ∧ quote.value = r.volume.value * r.price.value := by
  obtain ⟨volumeInteger, volumeIntegral, cumVolume⟩ := Value.positive?_eq r.cumVolume
  obtain ⟨priceInteger, priceIntegral, priced⟩ := Value.positive?_eq r.priced
  obtain ⟨volume, readVolume, volumeValue, volumePos, volumeBound⟩ :=
    reads_finite r.volume volumeInteger volumeIntegral
  obtain ⟨price, readPrice, priceValue, pricePos, priceBound⟩ :=
    reads_finite r.price priceInteger priceIntegral
  have room : 100 * 2 ^ 256 < 10 ^ prec := by norm_num [prec]
  have product : volume.coefficient * price.coefficient < 10 ^ prec := by
    calc volume.coefficient * price.coefficient
        ≤ (10 * r.volume.coefficient) * (10 * r.price.coefficient) :=
          Nat.mul_le_mul volumeBound priceBound
      _ = 100 * (r.volume.coefficient * r.price.coefficient) := by ring
      _ < 10 ^ prec := Nat.lt_trans (Nat.mul_lt_mul_of_pos_left r.fits (by decide)) room
  have volumeShort : volume.coefficient < 10 ^ prec :=
    Nat.lt_of_le_of_lt (Nat.le_mul_of_pos_right _ pricePos) product
  have exact : volume.multiply price =
      ⟨volume.coefficient * price.coefficient, volume.exponent + price.exponent⟩ :=
    Decimal.fix_of_short product
  refine ⟨volume, volume.multiply price, ?_, ⟨volumePos, volumeShort⟩, ?_, volumeValue, ?_⟩
  · simp only [rung, cumVolume, priced, Option.bind_some, readVolume, readPrice,
      Option.bind_eq_bind]
  · rw [exact]
    exact ⟨Nat.mul_pos volumePos pricePos, product⟩
  · rw [exact, ← volumeValue, ← priceValue]
    simp only [Decimal.value]
    push_cast
    rw [zpow_add₀ (by norm_num), mul_mul_mul_comm]

theorem bids_eq (rs : List Rung) (d1 d2 : Nat) :
    bids (some (.arr (rs.map Rung.entry))) d1 d2 = rs.filterMap (Rung.bid d1 d2) := by
  refine filterMap_rungs (fun r => ?_) rs
  obtain ⟨volume, quote, read, volumeRange, quoteRange, volumeValue, quoteValue⟩ := rung_eq r
  rw [read, Option.bind_some, level_eq volumeRange.1 volumeRange.2 quoteRange.1 quoteRange.2,
    volumeValue, quoteValue]
  rfl

theorem asks_eq (rs : List Rung) (d1 d2 : Nat) :
    asks (some (.arr (rs.map Rung.entry))) d1 d2 = rs.filterMap (Rung.ask d1 d2) := by
  rw [asks, levels, List.filterMap_map]
  refine filterMap_rungs (fun r => ?_) rs
  obtain ⟨volume, quote, read, volumeRange, quoteRange, volumeValue, quoteValue⟩ := rung_eq r
  rw [read, Option.bind_some, Function.comp_apply,
    level_eq quoteRange.1 quoteRange.2 volumeRange.1 volumeRange.2, volumeValue, quoteValue]
  rfl

end PropAMM.Python.Prices

namespace PropAMM.Prices

open DecimalText

/-- One side of a book. -/
def side (rungs : List Rung) : Option Value := some (.arr (rungs.map Rung.entry))

/-- A positive float as a rung's field holds it. -/
def float (significand : Nat) (exponent : Int) (trimmed : ¬ 10 ∣ significand) : Value :=
  .number (.finite false ⟨significand, exponent, trimmed⟩ false (by simp))

/-- 1.5 of one token at a price of 3125. -/
def rungSample : Rung where
  entry := .obj [("price", float 3125 0 (by decide)), ("cumVolume", float 15 (-1) (by decide))]
  volume := ⟨15, -1, by decide⟩
  price := ⟨3125, 0, by decide⟩
  cumVolume := rfl
  priced := rfl
  fits := by decide

/-- All three SDKs rebuild the levels of the exact amounts, in the order of the rungs. -/
theorem rungs_rebuilt_alike (rungs : List Rung) (d1 d2 : Fin 256) :
    (Rust.Prices.bids (side rungs) d1 d2 = rungs.filterMap (Rung.bid d1 d2) ∧
        Python.Prices.bids (side rungs) d1 d2 = rungs.filterMap (Rung.bid d1 d2) ∧
        TypeScript.Prices.bids (side rungs) d1 d2 = rungs.filterMap (Rung.bid d1 d2)) ∧
      Rust.Prices.asks (side rungs) d1 d2 = rungs.filterMap (Rung.ask d1 d2) ∧
        Python.Prices.asks (side rungs) d1 d2 = rungs.filterMap (Rung.ask d1 d2) ∧
        TypeScript.Prices.asks (side rungs) d1 d2 = rungs.filterMap (Rung.ask d1 d2) :=
  ⟨⟨Rust.Prices.bids_eq rungs d1 d2, Python.Prices.bids_eq rungs d1 d2,
      TypeScript.Prices.bids_eq rungs d1 d2⟩,
    Rust.Prices.asks_eq rungs d1 d2, Python.Prices.asks_eq rungs d1 d2,
    TypeScript.Prices.asks_eq rungs d1 d2⟩

theorem rungs_rebuilt_alike_sample :
    let bid : PriceLevel := { amountIn := 1500000000000000000, amountOut := 4687500000 }
    let ask : PriceLevel := { amountIn := 4687500000, amountOut := 1500000000000000000 }
    (Rust.Prices.bids (side [rungSample]) 18 6 = [bid] ∧
        Python.Prices.bids (side [rungSample]) 18 6 = [bid] ∧
        TypeScript.Prices.bids (side [rungSample]) 18 6 = [bid]) ∧
      Rust.Prices.asks (side [rungSample]) 18 6 = [ask] ∧
        Python.Prices.asks (side [rungSample]) 18 6 = [ask] ∧
        TypeScript.Prices.asks (side [rungSample]) 18 6 = [ask] := by
  intro bid ask
  have alike := rungs_rebuilt_alike [rungSample] 18 6
  have bids : [rungSample].filterMap (Rung.bid (18 : Fin 256) (6 : Fin 256)) = [bid] := by
    decide +kernel
  have asks : [rungSample].filterMap (Rung.ask (18 : Fin 256) (6 : Fin 256)) = [ask] := by
    decide +kernel
  rw [bids, asks] at alike
  exact alike

-- The first price is scaled past a uint256, the second rounds to no input of an ask.
example :
    let entry (price volume : Value) : Value := .obj [("price", price), ("cumVolume", volume)]
    let rungs := some (.arr
      [entry (float 1 0 (by decide)) (float 1 70 (by decide)),
        entry (float 1 (-90) (by decide)) (float 1 0 (by decide)),
        entry (float 24311554 (-4) (by decide)) (float 5 (-3) (by decide))])
    TypeScript.Prices.asks rungs 18 6 =
      [{ amountIn := 12155777, amountOut := 5000000000000000 }] := by
  decide +kernel

end PropAMM.Prices
