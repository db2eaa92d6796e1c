import TracedMath.Binary.Split
import TracedMath.Proofs.Rounding

/-!
# The two parts of a number

Counted in least positive numbers, the whole part of a finite number is the largest multiple of one
that its absolute value reaches, and the fraction is what remains. Nothing is rounded
(`split_splits`), and a number without a remainder is its own whole part bit for bit
(`whole_eq_self`).
-/

namespace TracedMath.Binary

variable {F : Format}

theorem dvd_of_no_place {x : Binary F} (h : F.bias + F.fracBits ≤ x.exponent.toNat) :
    F.unitsInOne ∣ x.scaledMagnitude := by
  have := F.bias_pos
  rw [scaledMagnitude_eq, if_neg (by omega), F.unitsInOne_eq]
  apply Nat.dvd_mul_left_of_dvd
  exact Nat.pow_dvd_pow 2 (by unfold Format.unitExponent; omega)

theorem lt_of_below_one {x : Binary F} (h : x.exponent.toNat < F.bias) :
    x.scaledMagnitude < F.unitsInOne := by
  calc x.scaledMagnitude < F.hiddenBit * 2 ^ x.exponent.toNat := x.scaledMagnitude_lt
    _ = 2 ^ (F.fracBits + x.exponent.toNat) := by rw [F.hiddenBit_eq, ← pow_add]
    _ ≤ F.unitsInOne := Nat.pow_le_pow_right (by decide) (by unfold Format.unitExponent; omega)

/-- How many fraction bits stand below the point. -/
def places (x : Binary F) : Nat := F.fracBits - (x.exponent.toNat - F.bias)

/-- The point stands within the fraction, or right before it. -/
structure Pointed (x : Binary F) : Prop where
  one_le : F.bias ≤ x.exponent.toNat
  has_place : x.exponent.toNat < F.bias + F.fracBits

namespace Pointed

variable {x : Binary F}

theorem unitsInOne_eq (h : Pointed x) :
    F.unitsInOne = 2 ^ x.places * 2 ^ (x.exponent.toNat - 1) := by
  obtain ⟨lo, hi⟩ := h
  have := F.bias_pos
  rw [F.unitsInOne_eq, ← pow_add]
  congr 1
  unfold Format.unitExponent places
  omega

theorem scaledMagnitude_eq (h : Pointed x) :
    x.scaledMagnitude = (F.hiddenBit + x.fraction.toNat) * 2 ^ (x.exponent.toNat - 1) := by
  have := F.bias_pos
  have := h.one_le
  rw [x.scaledMagnitude_eq, if_neg (by omega)]

theorem hiddenBit_eq (x : Binary F) :
    F.hiddenBit = 2 ^ x.places * 2 ^ (F.fracBits - x.places) := by
  have le : x.places ≤ F.fracBits := Nat.sub_le _ _
  rw [F.hiddenBit_eq, ← pow_add, Nat.add_sub_cancel' le]

/-- The remainder is held by the bits below the point. -/
theorem remainder_eq (h : Pointed x) :
    x.scaledMagnitude % F.unitsInOne =
      x.fraction.toNat % 2 ^ x.places * 2 ^ (x.exponent.toNat - 1) := by
  rw [h.scaledMagnitude_eq, h.unitsInOne_eq, Nat.mul_mod_mul_right, hiddenBit_eq x, Nat.mul_add_mod]

end Pointed

theorem toNat_belowPoint (F : Format) (e : Nat) :
    (belowPoint F e).toNat = 2 ^ (F.fracBits - e) - 1 := by
  rw [belowPoint, BitVec.toNat_ushiftRight, BitVec.toNat_allOnes]
  apply Nat.eq_of_testBit_eq
  intro i
  rw [Nat.testBit_shiftRight, Nat.testBit_two_pow_sub_one, Nat.testBit_two_pow_sub_one]
  apply decide_eq_decide.mpr
  omega

theorem toNat_masked (x : Binary F) :
    (x.fraction &&& belowPoint F (x.exponent.toNat - F.bias)).toNat =
      x.fraction.toNat % 2 ^ x.places := by
  rw [BitVec.toNat_and, toNat_belowPoint, Nat.and_two_pow_sub_one_eq_mod, places]

theorem toNat_and_add_and_not (f m : BitVec n) :
    (f &&& ~~~m).toNat + (f &&& m).toNat = f.toNat := by
  have apart : (f &&& ~~~m) &&& (f &&& m) = 0#n := by
    ext i hi
    cases hm : m[i] <;> simp [hm]
  have together : (f &&& ~~~m) ||| (f &&& m) = f := by
    ext i hi
    cases hm : m[i] <;> simp [hm]
  rw [← BitVec.toNat_add_of_and_eq_zero apart, BitVec.add_eq_or_of_and_eq_zero _ _ apart, together]

/-- What the parts of a finite number are, counted in least positive numbers. -/
structure Parts.Split (p : Parts F) (x : Binary F) : Prop where
  whole_finite : p.whole.isFinite
  fraction_finite : p.fraction.isFinite
  whole_negative : p.whole.negative = x.negative
  fraction_negative : p.fraction.negative = x.negative
  whole_count : p.whole.scaledMagnitude = x.scaledMagnitude / F.unitsInOne * F.unitsInOne
  fraction_count : p.fraction.scaledMagnitude = x.scaledMagnitude % F.unitsInOne

theorem Parts.Split.of_dvd {x : Binary F} (hx : x.isFinite)
    (h : F.unitsInOne ∣ x.scaledMagnitude) : Parts.Split ⟨zero x.negative, x⟩ x where
  whole_finite := hx
  fraction_finite := isFinite_zero _
  whole_negative := rfl
  fraction_negative := rfl
  whole_count := (Nat.div_mul_cancel h).symm
  fraction_count := by rw [scaledMagnitude_zero, Nat.mod_eq_zero_of_dvd h]

theorem Parts.Split.of_lt {x : Binary F} (hx : x.isFinite)
    (h : x.scaledMagnitude < F.unitsInOne) : Parts.Split ⟨x, zero x.negative⟩ x where
  whole_finite := isFinite_zero _
  fraction_finite := hx
  whole_negative := rfl
  fraction_negative := rfl
  whole_count := by rw [scaledMagnitude_zero, Nat.div_eq_of_lt h, Nat.zero_mul]
  fraction_count := (Nat.mod_eq_of_lt h).symm

/-- Numbers of one sign are subtracted by their counts. -/
theorem scaled_sub_of_sign {x y : Binary F} (sign : y.negative = x.negative) {n : Nat}
    (count : y.scaledMagnitude + n = x.scaledMagnitude) :
    x.scaled - y.scaled = if x.negative then -(n : Int) else n := by
  rw [scaled, scaled, sign, ← count]
  split <;> push_cast <;> ring

namespace Pointed

variable {x : Binary F}

/-- The number without the bits below the point. -/
def truncated (x : Binary F) : Binary F :=
  { x with fraction := x.fraction &&& ~~~belowPoint F (x.exponent.toNat - F.bias) }

theorem truncated_count (h : Pointed x) :
    (truncated x).scaledMagnitude + x.scaledMagnitude % F.unitsInOne = x.scaledMagnitude := by
  have bits := toNat_and_add_and_not x.fraction (belowPoint F (x.exponent.toNat - F.bias))
  have same : Pointed (truncated x) := ⟨h.one_le, h.has_place⟩
  rw [toNat_masked] at bits
  rw [h.remainder_eq, same.scaledMagnitude_eq, h.scaledMagnitude_eq, truncated, ← Nat.add_mul,
    Nat.add_assoc, bits]

theorem fits_remainder (h : Pointed x) : Fits F (x.scaledMagnitude % F.unitsInOne) := by
  have := x.exponent_le
  have := F.fracBits_lt
  obtain ⟨lo, hi⟩ := h
  refine ⟨_, _, Pointed.remainder_eq ⟨lo, hi⟩, ?_, by omega⟩
  calc x.fraction.toNat % 2 ^ x.places ≤ x.fraction.toNat := Nat.mod_le _ _
    _ < 2 * F.hiddenBit := by have := x.fraction_lt; omega

/-- The subtraction that leaves the fraction is exact, and its result is not zero, so that it has a
sign. -/
theorem split_sub (h : Pointed x) (hx : x.isFinite) (rest : x.scaledMagnitude % F.unitsInOne ≠ 0) :
    Parts.Split ⟨x - truncated x, truncated x⟩ x := by
  have finite : (truncated x).isFinite := hx
  have kept : (truncated x).negative = x.negative := rfl
  have difference : x.scaled + (-truncated x).scaled =
      if x.negative then -((x.scaledMagnitude % F.unitsInOne : Nat) : Int)
      else (x.scaledMagnitude % F.unitsInOne : Nat) := by
    rw [scaled_neg, ← Int.sub_eq_add_neg]
    exact scaled_sub_of_sign kept h.truncated_count
  have count : (x.scaled + (-truncated x).scaled).natAbs = x.scaledMagnitude % F.unitsInOne := by
    rw [difference]
    split
    · rw [Int.natAbs_neg, Int.natAbs_natCast]
    · exact Int.natAbs_natCast _
  obtain ⟨ends, exact⟩ := add_exact (y := -truncated x) hx finite (by rw [count]; exact h.fits_remainder)
  have whole : (truncated x).scaledMagnitude =
      x.scaledMagnitude / F.unitsInOne * F.unitsInOne := by
    have := h.truncated_count
    have := Nat.div_add_mod' x.scaledMagnitude F.unitsInOne
    omega
  have sign : (x - truncated x).negative = x.negative := by
    rw [Binary.sub_eq_add_neg, negative_of_scaled_ne_zero (by omega), exact, difference]
    cases x.negative <;> simp <;> omega
  exact ⟨finite, ends, kept, sign, whole, by rw [← natAbs_scaled, ← count, ← exact]; rfl⟩

end Pointed

/-- **Nothing is lost in a split.** The parts of a finite number have its sign, and their counts are
the quotient and the remainder of its own. -/
theorem split_splits {x : Binary F} (hx : x.isFinite) : x.split.Split x := by
  unfold split
  split
  · rename_i large
    simp only [not_isNaN_of_isFinite hx, Bool.false_eq_true, ↓reduceIte]
    exact .of_dvd hx (dvd_of_no_place large)
  · split
    · rename_i small
      exact .of_lt hx (lt_of_below_one small)
    · have pointed : Pointed x := ⟨by omega, by omega⟩
      dsimp only
      split
      · rename_i none
        have none := congrArg BitVec.toNat none
        rw [toNat_masked, BitVec.ofNat_eq_ofNat, BitVec.toNat_ofNat, Nat.zero_mod] at none
        apply Parts.Split.of_dvd hx
        apply Nat.dvd_of_mod_eq_zero
        rw [pointed.remainder_eq, none, Nat.zero_mul]
      · rename_i some
        apply pointed.split_sub hx
        rw [pointed.remainder_eq, ← toNat_masked]
        refine Nat.mul_ne_zero (fun zero => some ?_) (Nat.two_pow_pos _).ne'
        exact BitVec.eq_of_toNat_eq zero

/-- A number without a remainder is its own whole part, bit for bit. -/
theorem whole_eq_self {x : Binary F} (hx : x.isFinite) (h : x.scaledMagnitude % F.unitsInOne = 0) :
    x.split.whole = x := by
  have parts := split_splits hx
  apply eq_of_count parts.whole_negative
  rw [parts.whole_count, Nat.div_mul_cancel (Nat.dvd_of_mod_eq_zero h)]

end TracedMath.Binary
