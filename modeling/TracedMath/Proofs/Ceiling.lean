import TracedMath.Binary.Ceil
import TracedMath.Proofs.Splitting

namespace TracedMath.Binary

variable {F : Format}

theorem unitsInOne_cast_pos (F : Format) : (0 : Rat) < F.unitsInOne := by
  exact_mod_cast F.unitsInOne_pos

theorem value_eq_iff (x : Binary F) (k : Int) : x.value = k ↔ x.scaled = k * F.unitsInOne := by
  rw [value, div_eq_iff (unitsInOne_cast_pos F).ne']
  exact_mod_cast Iff.rfl

theorem lt_value_iff (x : Binary F) (k : Int) : (k : Rat) < x.value ↔ k * F.unitsInOne < x.scaled := by
  rw [value, lt_div_iff₀ (unitsInOne_cast_pos F)]
  exact_mod_cast Iff.rfl

theorem value_le_iff (x : Binary F) (k : Int) : x.value ≤ k ↔ x.scaled ≤ k * F.unitsInOne := by
  rw [value, div_le_iff₀ (unitsInOne_cast_pos F)]
  exact_mod_cast Iff.rfl

/-- A number that is next to `x` from above among the whole ones is its ceiling. -/
theorem value_eq_ceil {x y : Binary F} {k : Int} (whole : y.scaled = k * F.unitsInOne)
    (above : x.scaled ≤ k * F.unitsInOne) (next : (k - 1) * F.unitsInOne < x.scaled) :
    y.value = ⌈x.value⌉ := by
  have ceil : ⌈x.value⌉ = k := by
    rw [Int.ceil_eq_iff]
    refine ⟨?_, (value_le_iff x k).mpr above⟩
    exact_mod_cast (lt_value_iff x (k - 1)).mpr next
  rw [ceil]
  exact (value_eq_iff y k).mpr whole

theorem scaled_of_negative {x : Binary F} (h : x.negative = true) :
    x.scaled = -(x.scaledMagnitude : Int) := by
  rw [scaled, if_pos h]

theorem scaled_of_nonneg {x : Binary F} (h : x.negative = false) :
    x.scaled = x.scaledMagnitude := by
  rw [scaled, if_neg (by simp [h])]

theorem scaledMagnitude_split (x : Binary F) :
    (x.scaledMagnitude : Int) =
      ((x.scaledMagnitude / F.unitsInOne : Nat) : Int) * F.unitsInOne +
        ((x.scaledMagnitude % F.unitsInOne : Nat) : Int) := by
  exact_mod_cast (Nat.div_add_mod' x.scaledMagnitude F.unitsInOne).symm

theorem remainder_lt (x : Binary F) :
    ((x.scaledMagnitude % F.unitsInOne : Nat) : Int) < F.unitsInOne := by
  exact_mod_cast Nat.mod_lt x.scaledMagnitude F.unitsInOne_pos

/-- A whole value leaves no remainder. -/
theorem remainder_of_whole {x : Binary F} (h : ∃ n : Int, x.value = n) :
    x.scaledMagnitude % F.unitsInOne = 0 := by
  obtain ⟨n, hn⟩ := h
  apply Nat.mod_eq_zero_of_dvd
  rw [← natAbs_scaled, (value_eq_iff x n).mp hn, Int.natAbs_mul, Int.natAbs_natCast]
  exact Nat.dvd_mul_left _ _

theorem exponent_one : (one : Binary F).exponent.toNat = F.bias := by
  rw [one, BitVec.toNat_ofNat, F.two_pow_expBits]
  exact Nat.mod_eq_of_lt (by omega)

theorem isFinite_one : (one : Binary F).isFinite := by
  rw [isFinite_iff, exponent_one]
  omega

theorem scaled_one : (one : Binary F).scaled = F.unitsInOne := by
  have bias := F.bias_pos
  rw [scaled_of_nonneg rfl, scaledMagnitude_eq, exponent_one, if_neg (by omega)]
  have bare : (one : Binary F).fraction.toNat = 0 := by simp [one]
  have exponent : F.fracBits + (F.bias - 1) = F.unitExponent := Nat.add_comm _ _
  rw [bare, Nat.add_zero, F.hiddenBit_eq, F.unitsInOne_eq, ← pow_add, exponent]

/-- What has a remainder lies below the numbers that are all whole, so that the next whole number
still has its last bit. -/
theorem quotient_lt {x : Binary F} (h : x.scaledMagnitude % F.unitsInOne ≠ 0) :
    x.scaledMagnitude / F.unitsInOne < F.hiddenBit := by
  have pointed : x.exponent.toNat < F.bias + F.fracBits := by
    apply Nat.lt_of_not_le
    intro large
    exact h (Nat.mod_eq_zero_of_dvd (dvd_of_no_place large))
  apply (Nat.div_lt_iff_lt_mul F.unitsInOne_pos).mpr
  calc x.scaledMagnitude < F.hiddenBit * 2 ^ x.exponent.toNat := x.scaledMagnitude_lt
    _ ≤ F.hiddenBit * F.unitsInOne := by
      apply Nat.mul_le_mul_left
      exact Nat.pow_le_pow_right (by decide) (by unfold Format.unitExponent; omega)

/-- Going up by one from the whole part of a positive number that has a remainder is exact. -/
theorem whole_add_one {x : Binary F} (hx : x.isFinite) (sign : x.negative = false)
    (rest : x.scaledMagnitude % F.unitsInOne ≠ 0) :
    (x.split.whole + one).isFinite ∧
      (x.split.whole + one).scaled =
        ((x.scaledMagnitude / F.unitsInOne + 1 : Nat) : Int) * F.unitsInOne := by
  have parts := split_splits hx
  have sum : x.split.whole.scaled + (one : Binary F).scaled =
      ((x.scaledMagnitude / F.unitsInOne + 1 : Nat) : Int) * F.unitsInOne := by
    rw [scaled_of_nonneg (parts.whole_negative.trans sign), parts.whole_count, scaled_one]
    push_cast
    ring
  have fits : Fits F (x.split.whole.scaled + (one : Binary F).scaled).natAbs := by
    have bound := quotient_lt rest
    have := F.hiddenBit_pos
    have := F.fracBits_lt
    refine ⟨x.scaledMagnitude / F.unitsInOne + 1, F.unitExponent, ?_, by omega, ?_⟩
    · rw [sum, Int.natAbs_mul, Int.natAbs_natCast, Int.natAbs_natCast, F.unitsInOne_eq]
    · unfold Format.unitExponent
      omega
  obtain ⟨finite, exact⟩ := add_exact parts.whole_finite isFinite_one fits
  exact ⟨finite, exact.trans sum⟩

theorem positive_fraction_iff {x : Binary F} (hx : x.isFinite) :
    (zero false).lt x.split.fraction ↔
      x.negative = false ∧ x.scaledMagnitude % F.unitsInOne ≠ 0 := by
  have parts := split_splits hx
  rw [lt, not_isNaN_of_isFinite (isFinite_zero false), not_isNaN_of_isFinite parts.fraction_finite,
    scaled_zero, scaled, parts.fraction_negative, parts.fraction_count]
  cases x.negative <;> simp <;> omega

/-- The least whole number that is not below a finite number. Zero is negative if the number is
negative, but above minus one. -/
structure LeastWhole (x y : Binary F) : Prop where
  finite : y.isFinite
  value : y.value = ⌈x.value⌉
  fixed : (∃ n : Int, x.value = n) → y = x
  negative_zero : y = zero true ↔ x.negative ∧ -1 < x.value ∧ x.value ≤ 0

theorem ne_zero_true {y : Binary F} (h : y.negative = false) : y ≠ zero true := by
  intro eq
  rw [eq] at h
  exact Bool.noConfusion h

/-- Cutting the bits below the point off a negative number goes up. -/
theorem leastWhole_of_negative {x : Binary F} (hx : x.isFinite) (sign : x.negative = true) :
    LeastWhole x x.split.whole := by
  have parts := split_splits hx
  have whole : x.split.whole.scaled =
      -((x.scaledMagnitude / F.unitsInOne : Nat) : Int) * F.unitsInOne := by
    rw [scaled_of_negative (parts.whole_negative.trans sign), parts.whole_count]
    push_cast
    ring
  have scaled := scaled_of_negative sign
  constructor
  · exact parts.whole_finite
  · apply value_eq_ceil whole
    · rw [scaled, scaledMagnitude_split]
      have : (0 : Int) ≤ (x.scaledMagnitude % F.unitsInOne : Nat) := Int.natCast_nonneg _
      linarith
    · rw [scaled, scaledMagnitude_split]
      have := remainder_lt x
      linarith
  · intro integral
    exact whole_eq_self hx (remainder_of_whole integral)
  · have zero_iff : x.split.whole = zero true ↔ x.scaledMagnitude < F.unitsInOne := by
      have own := scaledMagnitude_eq_zero_iff x.split.whole
      rw [parts.whole_negative, sign] at own
      rw [← own, parts.whole_count, Nat.mul_eq_zero, or_iff_left F.unitsInOne_pos.ne',
        Nat.div_eq_zero_iff, or_iff_right F.unitsInOne_pos.ne']
    have above : (-1 : Rat) < x.value ↔ x.scaledMagnitude < F.unitsInOne := by
      have := lt_value_iff x (-1)
      push_cast at this
      rw [this, scaled]
      omega
    have below : x.value ≤ 0 := by
      have := (value_le_iff x 0).mpr (by rw [scaled]; omega)
      exact_mod_cast this
    rw [zero_iff, above]
    exact ⟨fun h => ⟨sign, h, below⟩, fun h => h.2.1⟩

theorem leastWhole_of_whole {x : Binary F} (hx : x.isFinite) (sign : x.negative = false)
    (none : x.scaledMagnitude % F.unitsInOne = 0) : LeastWhole x x.split.whole := by
  rw [whole_eq_self hx none]
  have scaled : x.scaled = ((x.scaledMagnitude / F.unitsInOne : Nat) : Int) * F.unitsInOne := by
    rw [scaled_of_nonneg sign]
    exact_mod_cast (Nat.div_mul_cancel (Nat.dvd_of_mod_eq_zero none)).symm
  constructor
  · exact hx
  · apply value_eq_ceil scaled scaled.le
    rw [scaled]
    have := F.unitsInOne_pos
    zify at this
    linarith
  · exact fun _ => rfl
  · simp [ne_zero_true sign, sign]

theorem leastWhole_of_positive {x : Binary F} (hx : x.isFinite) (sign : x.negative = false)
    (rest : x.scaledMagnitude % F.unitsInOne ≠ 0) : LeastWhole x (x.split.whole + one) := by
  obtain ⟨finite, next⟩ := whole_add_one hx sign rest
  have scaled := scaled_of_nonneg sign
  have positive : 0 < (x.split.whole + one).scaled := by
    rw [next]
    exact_mod_cast Nat.mul_pos (Nat.succ_pos _) F.unitsInOne_pos
  constructor
  · exact finite
  · apply value_eq_ceil next
    · rw [scaled, scaledMagnitude_split, Int.natCast_succ]
      have := remainder_lt x
      linarith
    · rw [scaled, scaledMagnitude_split, Int.natCast_succ]
      have : (0 : Int) < (x.scaledMagnitude % F.unitsInOne : Nat) := by omega
      linarith
  · intro integral
    exact absurd (remainder_of_whole integral) rest
  · have plus : (x.split.whole + one).negative = false := by
      rw [negative_of_scaled_ne_zero positive.ne']
      exact decide_eq_false (by omega)
    simp [ne_zero_true plus, sign]

theorem leastWhole_bump {x : Binary F} (hx : x.isFinite) : LeastWhole x (bump x.split) := by
  rw [bump]
  split
  · rename_i up
    obtain ⟨sign, rest⟩ := (positive_fraction_iff hx).mp up
    exact leastWhole_of_positive hx sign rest
  · rename_i stay
    rw [positive_fraction_iff hx] at stay
    cases sign : x.negative
    · exact leastWhole_of_whole hx sign (by simpa [sign] using stay)
    · exact leastWhole_of_negative hx sign

theorem ceilWith_of_isFinite {x : Binary F} (hx : x.isFinite) (mode : Mode) :
    x.ceilWith mode = .ok (bump x.split) := by
  rw [isFinite_eq, Bool.and_eq_true, Bool.not_eq_true', Bool.not_eq_true'] at hx
  cases mode
  · simp [ceilWith, hx.1, hx.2]
  · rfl

theorem not_isNaN_of_isInfinite {x : Binary F} (h : x.isInfinite) : x.isNaN = false := by
  rw [isInfinite, Bool.and_eq_true] at h
  simp [isNaN, bne, h.2]

theorem exponent_of_not_isFinite {x : Binary F} (h : ¬ x.isFinite) :
    F.bias + F.fracBits ≤ x.exponent.toNat := by
  rw [isFinite_iff] at h
  have := F.fracBits_lt
  omega

/-- A number that is not finite has no fraction to go up for. -/
theorem bump_of_not_isFinite {x : Binary F} (h : ¬ x.isFinite) : bump x.split = x := by
  have still : (zero false).lt (if x.isNaN then x else zero x.negative) = false := by
    split
    · rename_i nan
      simp [lt, nan]
    · simp [lt]
  simp only [split, exponent_of_not_isFinite h, if_true, bump, still, Bool.false_eq_true, if_false]

theorem isFinite_bump (x : Binary F) : (bump x.split).isFinite = x.isFinite := by
  by_cases finite : x.isFinite
  · rw [(leastWhole_bump finite).finite, finite]
  · rw [bump_of_not_isFinite finite]

theorem isNaN_bump (x : Binary F) : (bump x.split).isNaN = x.isNaN := by
  by_cases finite : x.isFinite
  · rw [not_isNaN_of_isFinite (leastWhole_bump finite).finite, not_isNaN_of_isFinite finite]
  · rw [bump_of_not_isFinite finite]

theorem ceilWith_of_not_isNaN {x : Binary F} (number : x.isNaN = false) (mode : Mode) :
    x.ceilWith mode = .ok (bump x.split) := by
  by_cases finite : x.isFinite
  · exact ceilWith_of_isFinite finite mode
  · have infinite : x.isInfinite := by simpa [isFinite_eq, number] using finite
    cases mode with
    | ieee => simp [ceilWith, number, infinite, bump_of_not_isFinite finite]
    | lenient => rfl

/-- A ceiling that is returned is that of the unchecked way. -/
theorem eq_bump_of_ok {x y : Binary F} {mode : Mode} (ok : x.ceilWith mode = .ok y) :
    y = bump x.split := by
  cases number : x.isNaN with
  | false =>
    rw [ceilWith_of_not_isNaN number, Except.ok.injEq] at ok
    exact ok.symm
  | true =>
    cases mode with
    | lenient => exact (Except.ok.inj ok).symm
    | ieee =>
      have refused := (ceilWith_eq_error_iff .ieee x .domain).mpr ⟨rfl, number, rfl⟩
      rw [refused] at ok
      cases ok

/-- **The ceiling is exact on every word.** -/
theorem ceiling_exact (x : Binary F) :
    (x.isFinite → ∃ y, LeastWhole x y ∧ (∀ mode, x.ceilWith mode = .ok y) ∧
      x.ceilChecked = .ok y ∧ x.ceilLenient = y) ∧
    (x.isInfinite → (∀ mode, x.ceilWith mode = .ok x) ∧ x.ceilChecked = .ok x ∧
      x.ceilLenient = x) ∧
    (x.isNaN → x.ceilWith .ieee = .error ⟨33⟩ ∧ x.ceilChecked = .error ⟨33⟩ ∧
      (∃ y, x.ceilWith .lenient = .ok y ∧ y.isNaN) ∧ x.ceilLenient.isNaN) := by
  refine ⟨?_, ?_, ?_⟩
  · intro finite
    exact ⟨bump x.split, leastWhole_bump finite, ceilWith_of_isFinite finite,
      ceilWith_of_isFinite finite .ieee, rfl⟩
  · intro infinite
    have lenient : bump x.split = x := bump_of_not_isFinite (by simp [isFinite_eq, infinite])
    have both (mode : Mode) : x.ceilWith mode = .ok x := by
      cases mode
      · simp [ceilWith, not_isNaN_of_isInfinite infinite, infinite]
      · rw [ceilWith, lenient]
    exact ⟨both, both .ieee, by rw [ceilLenient_eq, lenient]⟩
  · intro nan
    have lenient : bump x.split = x := bump_of_not_isFinite (by simp [isFinite_eq, nan])
    have refused : x.ceilWith .ieee = .error ⟨33⟩ :=
      (ceilWith_eq_error_iff .ieee x ⟨33⟩).mpr ⟨rfl, nan, rfl⟩
    exact ⟨refused, refused, ⟨x, by rw [ceilWith, lenient], nan⟩, by rw [ceilLenient_eq, lenient, nan]⟩

/-- The largest double with a fraction goes up to the first one that has no place for any. A negative
infinity stays, and a NaN is an error in one mode alone. -/
theorem ceiling_of_each_kind :
    ((ofBits 0x432fffffffffffff : Binary64).isFinite ∧
      LeastWhole (ofBits 0x432fffffffffffff : Binary64) (ofBits 0x4330000000000000)) ∧
    ((infinity true : Binary64).isInfinite ∧
      ∀ mode, (infinity true : Binary64).ceilWith mode = .ok (infinity true)) ∧
    ((nan : Binary32).isNaN ∧ (nan : Binary32).ceilWith .ieee = .error ⟨33⟩ ∧
      (nan : Binary32).ceilLenient.isNaN) := by
  refine ⟨?_, ?_, ?_⟩
  · have finite : (ofBits 0x432fffffffffffff : Binary64).isFinite := by decide
    obtain ⟨y, least, _, checked, _⟩ :=
      (ceiling_exact (ofBits 0x432fffffffffffff : Binary64)).1 finite
    have result : (ofBits 0x432fffffffffffff : Binary64).ceilChecked =
        .ok (ofBits 0x4330000000000000) := by decide +kernel
    rw [checked, Except.ok.injEq] at result
    exact ⟨finite, result ▸ least⟩
  · have infinite : (infinity true : Binary64).isInfinite := by decide
    exact ⟨infinite, ((ceiling_exact _).2.1 infinite).1⟩
  · have nan : (nan : Binary32).isNaN := by decide
    have kind := (ceiling_exact _).2.2 nan
    exact ⟨nan, kind.1, kind.2.2.2⟩

end TracedMath.Binary
