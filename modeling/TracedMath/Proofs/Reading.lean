import Mathlib.Algebra.Order.Field.Power
import Mathlib.Tactic.FieldSimp
import TracedMath.Decimal.Basic
import TracedMath.Proofs.Nearest
import TracedMath.Proofs.Parts

/-!
# Reading a decimal

`ReadsAs` is what a correct reader does, said of the values alone: the number is the nearest one of all
that are not NaN, an infinity standing where the number after the largest finite one would, and of two
equally near ones it is the even one. `toBinary_eq_iff`: that is what `Decimal.toBinary` finds. The
decimals that read as a number are those between any two that do (`ReadsAs.between`).
-/

namespace TracedMath

open Binary

variable {F : Format}

namespace Decimal

/-- The absolute value. -/
def size (d : Decimal) : Rat := d.coefficient * 10 ^ d.exponent

def value (d : Decimal) : Rat := direction d.negative * d.size

theorem size_nonneg (d : Decimal) : 0 ≤ d.size := by
  unfold size
  positivity

/-- The number is the correct reading of the decimal. -/
structure ReadsAs (d : Decimal) (x : Binary F) : Prop where
  sign : d.negative = x.negative
  number : x.isNaN = false
  nearest : ∀ y : Binary F, y.isNaN = false → |d.value - x.value| ≤ |d.value - y.value|
  even : ∀ y : Binary F, y.isNaN = false → y.value ≠ x.value →
    |d.value - y.value| = |d.value - x.value| → x.fraction.toNat % 2 = 0

end Decimal

namespace Binary

theorem value_eq_countAt (x : Binary F) :
    x.value = direction x.negative * (countAt F x.magnitude / F.unitsInOne) := by
  rw [value_eq_direction, scaledMagnitude_eq_countAt]

theorem abs_value (x : Binary F) : |x.value| = countAt F x.magnitude / F.unitsInOne := by
  rw [abs_value_eq, scaledMagnitude_eq_countAt]

theorem magnitude_of_abs_value {x y : Binary F} (h : |x.value| = |y.value|) :
    x.magnitude = y.magnitude := by
  rw [abs_value, abs_value, div_left_inj' (unitsInOne_cast_pos F).ne'] at h
  exact (countAt_strictMono F).injective (by exact_mod_cast h)

/-- Two numbers of one magnitude that differ in value differ in sign. -/
theorem value_of_magnitude {x y : Binary F} (same : y.magnitude = x.magnitude)
    (apart : y.value ≠ x.value) : y.value = -x.value := by
  rw [value_eq_countAt, value_eq_countAt x, same] at apart ⊢
  rw [← neg_mul]
  congr 1
  generalize y.negative = s at *
  generalize x.negative = t at *
  cases s <;> cases t <;> simp [direction] at apart ⊢

/-- A number and its negative are equally far from zero alone, and zero itself is no farther. -/
theorem value_eq_of_tie {x y : Binary F} {v : Rat} (same : y.magnitude = x.magnitude)
    (tie : |v - y.value| = |v - x.value|) (near : |v - x.value| ≤ |v|) : y.value = x.value := by
  by_contra apart
  have opposite := value_of_magnitude same apart
  rw [opposite] at tie apart
  have none : x.value = 0 := by
    rcases abs_eq_abs.mp tie with same | origin
    · linarith
    · have origin : v = 0 := by linarith
      rw [origin, zero_sub, abs_neg, abs_zero] at near
      exact abs_nonpos_iff.mp near
  exact apart (by rw [none, neg_zero])

end Binary

namespace Decimal

variable {d : Decimal} {x y : Binary F}

theorem abs_value (d : Decimal) : |d.value| = d.size := by
  rw [value, abs_mul, abs_direction, one_mul, abs_of_nonneg d.size_nonneg]

/-- The distance of two absolute values, counted in least positive numbers. -/
theorem count_distance (d : Decimal) (y : Binary F) :
    |d.size * F.unitsInOne - countAt F y.magnitude| = |(|d.value| - |y.value|)| * F.unitsInOne := by
  have unit := unitsInOne_cast_pos F
  rw [d.abs_value, y.abs_value, ← abs_of_pos unit, ← abs_mul, abs_of_pos unit]
  congr 1
  field_simp

theorem distance_of_sign (sign : d.negative = y.negative) :
    |d.value - y.value| * F.unitsInOne = |d.size * F.unitsInOne - countAt F y.magnitude| := by
  rw [count_distance, d.abs_value, y.abs_value, value, value_eq_countAt, sign, ← mul_sub, abs_mul,
    abs_direction, one_mul]

theorem distance_ge (d : Decimal) (y : Binary F) :
    |d.size * F.unitsInOne - countAt F y.magnitude| ≤ |d.value - y.value| * F.unitsInOne := by
  have unit := unitsInOne_cast_pos F
  rw [count_distance]
  exact mul_le_mul_of_nonneg_right (abs_abs_sub_abs_le _ _) unit.le

/-- For numbers of the decimal's sign the distances of the values are those of the counts, and for the
others they are greater. So what matters is that the size rounds to the number's magnitude. -/
theorem readsAs_iff :
    d.ReadsAs x ↔ d.negative = x.negative ∧ RoundsTo F (d.size * F.unitsInOne) x.magnitude := by
  have unit := unitsInOne_cast_pos F
  constructor
  · intro h
    have own := distance_of_sign h.sign
    refine ⟨h.sign, roundsTo_iff.mpr ⟨(isNaN_eq_false_iff x).mp h.number, fun k hk apart => ?_⟩⟩
    let y : Binary F := ofMagnitude x.negative k
    have magnitude : y.magnitude = k := magnitude_ofMagnitude hk
    have number : y.isNaN = false := (isNaN_eq_false_iff y).mpr (magnitude.trans_le hk)
    have other : |d.value - y.value| * F.unitsInOne = _ := distance_of_sign h.sign
    rw [magnitude] at other
    rw [Nearer, ← own, ← other]
    refine ⟨mul_le_mul_of_nonneg_right (h.nearest y number) unit.le, fun tie => ?_⟩
    rw [magnitude_mod_two]
    refine h.even y number (fun same => apart ?_) (mul_right_cancel₀ unit.ne' tie)
    rw [← magnitude]
    exact magnitude_of_abs_value (congrArg abs same)
  · rintro ⟨sign, rounds⟩
    obtain ⟨le, near⟩ := roundsTo_iff.mp rounds
    have own := distance_of_sign sign
    have closer (y : Binary F) (hy : y.isNaN = false) : |d.value - x.value| ≤ |d.value - y.value| := by
      apply le_of_mul_le_mul_right _ unit
      rw [own]
      refine le_trans ?_ (d.distance_ge y)
      by_cases same : y.magnitude = x.magnitude
      · rw [same]
      · exact (near _ ((isNaN_eq_false_iff y).mp hy) same).1
    refine ⟨sign, (isNaN_eq_false_iff x).mpr le, closer, fun y hy apart tie => ?_⟩
    by_cases same : y.magnitude = x.magnitude
    · have near_zero := closer (zero false) (not_isNaN_of_isFinite (isFinite_zero false))
      have origin : (zero false : Binary F).value = 0 := by simp [Binary.value]
      rw [origin, sub_zero] at near_zero
      exact absurd (value_eq_of_tie same tie near_zero) apart
    · obtain ⟨nearer, even⟩ := near y.magnitude ((isNaN_eq_false_iff y).mp hy) same
      rw [← magnitude_mod_two]
      refine even (le_antisymm ?_ nearer)
      rw [← own, ← tie]
      exact d.distance_ge y

theorem toBinary_ratio (d : Decimal) (F : Format) :
    ((d.coefficient * Nat.pow 10 d.exponent.toNat * F.unitsInOne : Nat) : Rat) /
      (Nat.pow 10 (-d.exponent).toNat : Nat) = d.size * F.unitsInOne := by
  rw [size, Nat.pow_eq, Nat.pow_eq]
  obtain ⟨e, up | down⟩ := d.exponent.eq_nat_or_neg
  · rw [up, Int.toNat_natCast, Int.toNat_neg_natCast, zpow_natCast]
    push_cast
    ring
  · rw [down, neg_neg, Int.toNat_natCast, Int.toNat_neg_natCast, zpow_neg, zpow_natCast]
    push_cast
    ring

/-- **The reader finds the correct reading.** -/
theorem toBinary_eq_iff : d.toBinary F = x ↔ d.ReadsAs x := by
  have pos : 0 < Nat.pow 10 (-d.exponent).toNat := Nat.pow_pos (by decide)
  rw [toBinary, ofRatio_eq_iff pos, toBinary_ratio, readsAs_iff]

theorem ReadsAs.unique (hx : d.ReadsAs x) (hy : d.ReadsAs y) : x = y := by
  rw [← toBinary_eq_iff.mpr hx, toBinary_eq_iff.mpr hy]

/-- Decimals of the sign that lie between two readings of a number are readings of it. -/
theorem ReadsAs.between {a b : Decimal} (ha : a.ReadsAs x) (hb : b.ReadsAs x)
    (sign : d.negative = x.negative) (low : a.size ≤ d.size) (high : d.size ≤ b.size) :
    d.ReadsAs x := by
  have unit := unitsInOne_cast_pos F
  rw [readsAs_iff] at ha hb ⊢
  exact ⟨sign, ha.2.between hb.2 (mul_le_mul_of_nonneg_right low unit.le)
    (mul_le_mul_of_nonneg_right high unit.le)⟩

/-- A number is the reading of its exact value. -/
theorem readsAs_of_count (number : x.isNaN = false) (sign : d.negative = x.negative)
    (exact : d.size * F.unitsInOne = x.scaledMagnitude) : d.ReadsAs x := by
  rw [readsAs_iff, exact, scaledMagnitude_eq_countAt]
  exact ⟨sign, RoundsTo.countAt_self ((isNaN_eq_false_iff x).mp number)⟩

theorem exactDecimal_readsAs (number : x.isNaN = false) : x.exactDecimal.ReadsAs x := by
  apply readsAs_of_count number rfl
  have ten : (10 : Rat) ^ F.unitExponent = 5 ^ F.unitExponent * 2 ^ F.unitExponent := by
    rw [← mul_pow]
    norm_num
  rw [size, exactDecimal, Nat.pow_eq, F.unitsInOne_eq, zpow_neg, zpow_natCast, ten]
  push_cast
  field_simp

end Decimal

end TracedMath
