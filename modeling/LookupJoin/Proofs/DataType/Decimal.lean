import Mathlib.Algebra.Order.Field.Power
import Mathlib.Algebra.Order.Ring.Rat
import Mathlib.Tactic.NormNum
import LookupJoin.DataType.Interoperable
/-!
Decimals and their values. A decimal counts units of its last place, which the scale puts behind the point or, when
negative, before it, and the count has no more digits than the precision. Main statement: a decimal type is
interoperable with another exactly when each of its values is also one of the other's, and the machine words in
which the digits before the point are compared hold the true differences.
-/
namespace LookupJoin

/-- A value that decimals of the precision and scale hold. -/
def DecimalHolds (precision : UInt8) (scale : Int8) (value : ℚ) : Prop :=
  ∃ units : ℤ, |units| < 10 ^ precision.toNat ∧ value = units * 10 ^ (-scale.toInt)

namespace FlatType

variable {precision precision' : UInt8} {scale scale' : Int8}

theorem toInt_wholeDigits (precision : UInt8) (scale : Int8) :
    (wholeDigits precision scale).toInt = precision.toNat - scale.toInt := by
  have few : precision.toNat < 256 := precision.toNat_lt
  have low : -128 ≤ scale.toInt := scale.le_toInt
  have high : scale.toInt < 128 := scale.toInt_lt
  have digits : precision.toUInt16.toInt16.toInt = precision.toNat := by
    rw [Int16.toInt, UInt16.toBitVec_toInt16, BitVec.toInt_eq_toNat_bmod, UInt16.toNat_toBitVec,
      UInt8.toNat_toUInt16]
    exact Int.bmod_eq_of_le (by omega) (by omega)
  have places : scale.toInt16.toInt = scale.toInt := Int8.toInt_toInt16 scale
  rw [wholeDigits, Int16.toInt_sub, digits, places]
  exact Int.bmod_eq_of_le (by omega) (by omega)

theorem decimalWidens_iff :
    decimalWidens precision scale precision' scale' = true ↔
      scale.toInt ≤ scale'.toInt ∧ (precision.toNat : ℤ) - scale.toInt ≤ precision'.toNat - scale'.toInt := by
  rw [decimalWidens, Bool.and_eq_true, decide_eq_true_eq, decide_eq_true_eq, Int8.le_iff_toInt_le,
    Int16.le_iff_toInt_le, toInt_wholeDigits, toInt_wholeDigits]

theorem units_eq_iff {point point' : ℤ} {places : ℕ} (finer : point' = point + places) {units units' : ℤ} :
    (units : ℚ) * 10 ^ (-point) = units' * 10 ^ (-point') ↔ units * 10 ^ places = units' := by
  have split : (10 : ℚ) ^ (-point) = 10 ^ places * 10 ^ (-point') := by
    rw [← zpow_natCast, ← zpow_add₀ (by norm_num), finer]
    congr 1
    omega
  have positive : (10 : ℚ) ^ (-point') ≠ 0 := by positivity
  rw [split, ← mul_assoc, mul_left_inj' positive]
  exact_mod_cast Iff.rfl

theorem decimalHolds_of_widens (widens : decimalWidens precision scale precision' scale' = true) {value : ℚ}
    (holds : DecimalHolds precision scale value) : DecimalHolds precision' scale' value := by
  obtain ⟨finer, room⟩ := decimalWidens_iff.1 widens
  obtain ⟨places, shifted⟩ := Int.le.dest finer
  obtain ⟨units, bounded, rfl⟩ := holds
  have bounded' : |units * 10 ^ places| < 10 ^ precision'.toNat := by
    have positive : (0 : ℤ) < 10 ^ places := by positivity
    calc |units * 10 ^ places| = |units| * 10 ^ places := by rw [abs_mul, abs_of_pos positive]
      _ < 10 ^ precision.toNat * 10 ^ places := mul_lt_mul_of_pos_right bounded positive
      _ = 10 ^ (precision.toNat + places) := (pow_add ..).symm
      _ ≤ 10 ^ precision'.toNat := pow_le_pow_right₀ (by norm_num) (by omega)
  exact ⟨units * 10 ^ places, bounded', (units_eq_iff shifted.symm).2 rfl⟩

theorem decimalHolds_power {digits : ℕ} (fits : digits < precision.toNat) :
    DecimalHolds precision scale (((10 ^ digits : ℤ) : ℚ) * 10 ^ (-scale.toInt)) := by
  refine ⟨10 ^ digits, ?_, rfl⟩
  rw [abs_of_pos (by positivity)]
  exact pow_lt_pow_right₀ (by norm_num) fits

section Lossless

variable (lossless : ∀ value, DecimalHolds precision scale value → DecimalHolds precision' scale' value)
  (digits : 1 ≤ precision)

include lossless digits

/-- One unit is not lost, so it is a whole number of the other's. -/
theorem scale_le_of_lossless : scale.toInt ≤ scale'.toInt := by
  have first : 0 < precision.toNat := UInt8.le_iff_toNat_le.1 digits
  obtain ⟨units, _, same⟩ := lossless _ (decimalHolds_power first)
  by_contra coarser
  -- A coarser unit is ten of ours or more, and a whole number of those is never one of ours.
  obtain ⟨places, shifted⟩ := Int.le.dest (Int.not_le.1 coarser).le
  have parts : units * 10 ^ places = 10 ^ 0 := (units_eq_iff shifted.symm).1 same.symm
  have positive : places ≠ 0 := by omega
  have divides : (10 : ℤ) ∣ 1 := by
    rw [← pow_zero 10, ← parts]
    exact Dvd.dvd.mul_left (dvd_pow_self 10 positive) units
  omega

/-- The highest power of ten is not lost, so the other has a digit for it. -/
theorem wholeDigits_le_of_lossless :
    (precision.toNat : ℤ) - scale.toInt ≤ precision'.toNat - scale'.toInt := by
  have last : precision.toNat - 1 < precision.toNat := Nat.sub_lt (UInt8.le_iff_toNat_le.1 digits) Nat.one_pos
  obtain ⟨units, bounded, same⟩ := lossless _ (decimalHolds_power last)
  obtain ⟨places, shifted⟩ := Int.le.dest (scale_le_of_lossless lossless digits)
  obtain rfl := (units_eq_iff shifted.symm).1 same
  rw [← pow_add, abs_of_pos (by positivity)] at bounded
  have shorter : precision.toNat - 1 + places < precision'.toNat := (pow_lt_pow_iff_right₀ (by norm_num)).1 bounded
  omega

end Lossless

theorem decimalWidens_iff_lossless (digits : 1 ≤ precision) :
    decimalWidens precision scale precision' scale' = true ↔
      ∀ value, DecimalHolds precision scale value → DecimalHolds precision' scale' value := by
  constructor
  · intro widens value holds
    exact decimalHolds_of_widens widens holds
  · intro lossless
    exact decimalWidens_iff.2 ⟨scale_le_of_lossless lossless digits, wholeDigits_le_of_lossless lossless digits⟩

end FlatType

namespace DataType

theorem interoperable_decimal_iff {width width' : DecimalWidth} {precision precision' : UInt8} {scale scale' : Int8} :
    (flat (.decimal width precision scale)).interoperable (.flat (.decimal width' precision' scale')) = true ↔
      FlatType.decimalWidens precision scale precision' scale' = true := by
  rw [interoperable, Bool.or_eq_true, decide_eq_true_eq]
  constructor
  · intro passes
    rcases passes with same | widens
    · cases same
      exact FlatType.decimalWidens_iff.2 ⟨le_rfl, le_rfl⟩
    · exact widens
  · exact .inr

theorem interoperable_decimal_iff_lossless (width width' : DecimalWidth) {precision : UInt8} (scale : Int8)
    (precision' : UInt8) (scale' : Int8) (digits : 1 ≤ precision) :
    ((flat (.decimal width precision scale)).interoperable (.flat (.decimal width' precision' scale')) = true ↔
      ∀ value, DecimalHolds precision scale value → DecimalHolds precision' scale' value) ∧
        (FlatType.wholeDigits precision scale).toInt = precision.toNat - scale.toInt ∧
          (FlatType.wholeDigits precision' scale').toInt = precision'.toNat - scale'.toInt := by
  refine ⟨?_, FlatType.toInt_wholeDigits precision scale, FlatType.toInt_wholeDigits precision' scale'⟩
  exact interoperable_decimal_iff.trans (FlatType.decimalWidens_iff_lossless digits)

theorem interoperable_thousands :
    (1 : UInt8) ≤ 5 ∧
      (flat (.decimal .w256 5 (-3))).interoperable (.flat (.decimal .w128 9 1)) = true ∧
        (∀ value, DecimalHolds 5 (-3) value → DecimalHolds 9 1 value) ∧
          (FlatType.wholeDigits 5 (-3)).toInt = (5 : UInt8).toNat - (-3 : Int8).toInt ∧
            (FlatType.wholeDigits 9 1).toInt = (9 : UInt8).toNat - (1 : Int8).toInt := by
  have digits : (1 : UInt8) ≤ 5 := by decide
  have passes : (flat (.decimal .w256 5 (-3))).interoperable (.flat (.decimal .w128 9 1)) = true := by decide
  obtain ⟨iff, words⟩ := interoperable_decimal_iff_lossless .w256 .w128 (-3) 9 1 digits
  exact ⟨digits, passes, iff.1 passes, words⟩

end DataType

end LookupJoin
