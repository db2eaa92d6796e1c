import TracedMath.Binary.Class
import TracedMath.Proofs.Parts

namespace TracedMath

/-- The least value of a normal number. -/
def Format.leastNormal (F : Format) : Rat := 1 / 2 ^ (F.bias - 1)

namespace Binary

variable {F : Format}

theorem hiddenBit_div_unitsInOne (F : Format) : (F.hiddenBit / F.unitsInOne : Rat) = F.leastNormal := by
  rw [F.hiddenBit_eq, F.unitsInOne_eq, Format.unitExponent, Format.leastNormal, pow_add]
  push_cast
  field_simp

theorem leastNormal_le_one (F : Format) : F.leastNormal ≤ 1 := by
  rw [Format.leastNormal, div_le_one (by positivity)]
  exact one_le_pow₀ (by norm_num)

theorem exponent_eq_zero_iff (x : Binary F) : x.exponent = 0 ↔ x.scaledMagnitude < F.hiddenBit := by
  have field : x.exponent = 0 ↔ x.exponent.toNat = 0 := by simp [BitVec.toNat_eq]
  rw [field]
  constructor
  · intro low
    rw [scaledMagnitude_eq, if_pos low]
    exact x.fraction_lt
  · intro small
    by_contra high
    have large := le_scaledMagnitude (Nat.pos_of_ne_zero high)
    have := Nat.le_mul_of_pos_right F.hiddenBit (Nat.two_pow_pos (x.exponent.toNat - 1))
    omega

theorem classify_of_isFinite {x : Binary F} (h : x.isFinite) :
    x.classify =
      if x.scaledMagnitude = 0 then .zero
      else if x.scaledMagnitude < F.hiddenBit then .subnormal
      else .normal := by
  have top : x.exponent ≠ BitVec.allOnes F.expBits := by simpa [isFinite] using h
  have low := x.exponent_eq_zero_iff
  rw [classify, if_neg top]
  by_cases exponent : x.exponent = 0
  · have count : x.scaledMagnitude = x.fraction.toNat := by rw [scaledMagnitude, if_pos exponent]
    have none : x.fraction = 0 ↔ x.scaledMagnitude = 0 := by simp [count, BitVec.toNat_eq]
    rw [if_pos exponent, if_pos (low.mp exponent)]
    simp only [none]
  · have large : ¬ x.scaledMagnitude < F.hiddenBit := fun small => exponent (low.mpr small)
    have := F.hiddenBit_pos
    rw [if_neg exponent, if_neg large, if_neg (by omega)]

theorem classify_of_not_isFinite {x : Binary F} (h : ¬ x.isFinite) :
    x.classify = if x.isNaN then .nan else .infinite := by
  split
  · rename_i nan
    exact (classify_eq_nan_iff x).mpr nan
  · rename_i number
    exact (classify_eq_infinite_iff x).mpr (by simpa [isFinite_eq, number] using h)

theorem value_eq_zero_iff (x : Binary F) : x.value = 0 ↔ x.scaledMagnitude = 0 := by
  have unit := unitsInOne_cast_pos F
  rw [← abs_eq_zero, abs_value_eq, div_eq_zero_iff, or_iff_left unit.ne']
  exact_mod_cast Iff.rfl

theorem abs_value_lt_iff (x : Binary F) :
    |x.value| < F.leastNormal ↔ x.scaledMagnitude < F.hiddenBit := by
  rw [abs_value_eq, ← hiddenBit_div_unitsInOne, div_lt_div_iff_of_pos_right (unitsInOne_cast_pos F)]
  exact_mod_cast Iff.rfl

theorem classify_eq_zero_iff (x : Binary F) : x.classify = .zero ↔ x.isFinite ∧ x.value = 0 := by
  by_cases finite : x.isFinite
  · rw [classify_of_isFinite finite, value_eq_zero_iff]
    grind
  · rw [classify_of_not_isFinite finite]
    grind

theorem classify_eq_subnormal_iff (x : Binary F) :
    x.classify = .subnormal ↔ x.isFinite ∧ 0 < |x.value| ∧ |x.value| < F.leastNormal := by
  rw [abs_pos, ne_eq, value_eq_zero_iff, abs_value_lt_iff]
  by_cases finite : x.isFinite
  · rw [classify_of_isFinite finite]
    grind
  · rw [classify_of_not_isFinite finite]
    grind

theorem classify_eq_normal_iff (x : Binary F) :
    x.classify = .normal ↔ x.isFinite ∧ F.leastNormal ≤ |x.value| := by
  have pos := F.hiddenBit_pos
  rw [← not_lt, abs_value_lt_iff]
  by_cases finite : x.isFinite
  · rw [classify_of_isFinite finite]
    grind
  · rw [classify_of_not_isFinite finite]
    grind

theorem Class.code_eq_iff {a b : Class} : a.code = b.code ↔ a = b := by
  cases a <;> cases b <;> decide

theorem isInfinite_iff (x : Binary F) : x.isInfinite ↔ x = infinity false ∨ x = infinity true := by
  constructor
  · intro infinite
    simp only [isInfinite, Bool.and_eq_true, beq_iff_eq] at infinite
    obtain ⟨exponent, fraction⟩ := infinite
    cases x with | mk sign e f =>
      cases sign <;> simp_all [infinity]
  · rintro (rfl | rfl) <;> simp [isInfinite, infinity]

/-- The class of a number, and what the questions about it are answered, told by its exact value. A
normal number has at least the value `least`. -/
structure Classified (x : Binary F) (least : Rat) : Prop where
  code : ∀ c : Class, x.classify.code = c.code ↔ x.classify = c
  valueless : x.classify = .nan ∨ x.classify = .infinite ↔ ¬ x.isFinite
  infinite : x.classify = .infinite ↔ x = infinity false ∨ x = infinity true
  zero : x.classify = .zero ↔ x.isFinite ∧ x.value = 0
  subnormal : x.classify = .subnormal ↔ x.isFinite ∧ 0 < |x.value| ∧ |x.value| < least
  normal : x.classify = .normal ↔ x.isFinite ∧ least ≤ |x.value|
  isNaN : flag x.isNaN = if x.classify = .nan then 1 else 0
  isInfinite : flag x.isInfinite = if x.classify = .infinite then 1 else 0
  isFinite : flag x.isFinite = if x.classify = .nan ∨ x.classify = .infinite then 0 else 1
  single : [flag x.isNaN, flag x.isInfinite, flag x.isFinite].count 1 = 1
  unsigned : (-x).classify = x.classify ∧ (-x).isNaN = x.isNaN ∧
    (-x).isInfinite = x.isInfinite ∧ (-x).isFinite = x.isFinite

theorem classify_valueless_iff (x : Binary F) :
    x.classify = .nan ∨ x.classify = .infinite ↔ ¬ x.isFinite := by
  rw [classify_eq_nan_iff, classify_eq_infinite_iff, isFinite_eq]
  cases x.isNaN <;> cases x.isInfinite <;> simp

theorem classified (x : Binary F) : x.Classified F.leastNormal where
  code _ := Class.code_eq_iff
  valueless := x.classify_valueless_iff
  infinite := x.classify_eq_infinite_iff.trans x.isInfinite_iff
  zero := x.classify_eq_zero_iff
  subnormal := x.classify_eq_subnormal_iff
  normal := x.classify_eq_normal_iff
  isNaN := by simp only [flag, classify_eq_nan_iff]
  isInfinite := by simp only [flag, classify_eq_infinite_iff]
  isFinite := by
    simp only [flag, classify_valueless_iff]
    cases x.isFinite <;> rfl
  single := by
    cases infinite : x.isInfinite with
    | true =>
      rw [isFinite_eq, not_isNaN_of_isInfinite infinite, infinite]
      decide
    | false =>
      rw [isFinite_eq, infinite]
      cases x.isNaN <;> decide
  unsigned := ⟨rfl, rfl, rfl, rfl⟩

/-- A whole number that is not zero is at least one. -/
theorem classify_bump_ne_subnormal (x : Binary F) : (bump x.split).classify ≠ .subnormal := by
  intro subnormal
  obtain ⟨finite, pos, small⟩ := (classify_eq_subnormal_iff _).mp subnormal
  have least := leastWhole_bump ((isFinite_bump x).symm.trans finite)
  rw [least.value] at pos small
  have below_one : |⌈x.value⌉| < 1 := by
    exact_mod_cast small.trans_le (leastNormal_le_one F)
  rw [Int.abs_lt_one_iff.mp below_one] at pos
  simp at pos

/-- What a ceiling makes of the class of its argument, and when there is none. -/
structure CeilingClassified (x : Binary F) : Prop where
  kept : ∀ (mode : Mode) (y : Binary F), x.ceilWith mode = .ok y →
    (y.classify = .nan ↔ x.classify = .nan) ∧
    (y.classify = .infinite ↔ x.classify = .infinite) ∧
    y.classify ≠ .subnormal
  refused : (∃ e, x.ceilWith .ieee = .error e) ↔ flag x.isNaN = 1
  lenient : ∃ y, x.ceilWith .lenient = .ok y

theorem ceilingClassified (x : Binary F) : x.CeilingClassified where
  kept := by
    intro mode y ok
    rw [eq_bump_of_ok ok]
    have nan := isNaN_bump x
    have finite := isFinite_bump x
    have infinite : (bump x.split).isInfinite = x.isInfinite := by
      rw [isFinite_eq, isFinite_eq, nan] at finite
      cases number : x.isNaN with
      | false => simpa [number] using finite
      | true => rw [bump_of_not_isFinite (by simp [isFinite_eq, number])]
    simp only [classify_eq_nan_iff, classify_eq_infinite_iff, nan, infinite, true_and]
    exact x.classify_bump_ne_subnormal
  refused := by
    simp only [ceilWith_eq_error_iff, true_and, exists_and_left, exists_eq, and_true]
    cases x.isNaN <;> decide
  lenient := ⟨_, rfl⟩

theorem leastNormal_binary64 : Format.binary64.leastNormal = 1 / 2 ^ 1022 := rfl

theorem leastNormal_binary32 : Format.binary32.leastNormal = 1 / 2 ^ 126 := rfl

/-- **Classification is exact.** The class of every word follows from whether it has a value, and from
that value; every question about it agrees with the class; and the ceiling keeps NaNs and infinities
apart from the rest, and is never subnormal. -/
theorem classification_exact :
    (∀ x : Binary64, x.Classified (1 / 2 ^ 1022) ∧ x.CeilingClassified) ∧
      ∀ x : Binary32, x.Classified (1 / 2 ^ 126) ∧ x.CeilingClassified := by
  constructor
  · intro x
    exact ⟨leastNormal_binary64 ▸ x.classified, x.ceilingClassified⟩
  · intro x
    exact ⟨leastNormal_binary32 ▸ x.classified, x.ceilingClassified⟩

/-- The greatest subnormal double and the least normal one, the greatest single, and a NaN that differs
from an infinity in its last bit. -/
theorem classification_exact_at_the_edges :
    let subnormal : Binary64 := ofBits 0x800fffffffffffff
    let normal : Binary64 := ofBits 0x8010000000000000
    let greatest : Binary32 := ofBits 0x7f7fffff
    let nan : Binary32 := ofBits 0x7f800001
    |subnormal.value| < 1 / 2 ^ 1022 ∧ 1 / 2 ^ 1022 ≤ |normal.value| ∧
      (greatest.ceilWith .ieee = .ok greatest ∧ greatest.classify ≠ .subnormal) ∧
      ∃ e, nan.ceilWith .ieee = .error e := by
  intro subnormal normal greatest nan
  obtain ⟨doubles, singles⟩ := classification_exact
  have below := (doubles subnormal).1.subnormal.mp (by decide +kernel)
  have above := (doubles normal).1.normal.mp (by decide +kernel)
  have ok : greatest.ceilWith .ieee = .ok greatest := by decide +kernel
  have whole := (singles greatest).2.kept .ieee greatest ok
  exact ⟨below.2.2, above.2, ⟨ok, whole.2.2⟩, (singles nan).2.refused.mpr (by decide +kernel)⟩

end Binary

end TracedMath
