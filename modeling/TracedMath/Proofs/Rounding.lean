import Mathlib.Data.Rat.Floor
import Mathlib.Tactic.Linarith
import Mathlib.Tactic.Ring
import TracedMath.Binary.Arithmetic

/-!
# Sums that need no rounding

Finite numbers are whole counts of the least positive one. `Fits` tells which counts a format has a
number for, and rounding leaves these as they are:

* `ofRatio_exact`: rounding such a count gives the number that has it;
* `add_exact`: a sum whose exact count fits is not rounded.
-/

namespace TracedMath

namespace Format

variable (F : Format)

theorem hiddenBit_eq : F.hiddenBit = 2 ^ F.fracBits := rfl

theorem unitsInOne_eq : F.unitsInOne = 2 ^ F.unitExponent := rfl

theorem hiddenBit_pos : 0 < F.hiddenBit := Nat.two_pow_pos _

theorem unitsInOne_pos : 0 < F.unitsInOne := Nat.two_pow_pos _

theorem fracBits_lt : F.fracBits < F.bias := F.fracBits_lt_bias

theorem bias_pos : 0 < F.bias := Nat.lt_of_le_of_lt (Nat.zero_le _) F.fracBits_lt

theorem two_pow_expBits : 2 ^ F.expBits = 2 * F.bias + 2 := by
  have split : 2 ^ F.expBits = 2 ^ (F.expBits - 1) * 2 := by
    rw [← pow_succ, Nat.sub_add_cancel (Nat.le_of_succ_le F.two_le_expBits)]
  have bias : F.bias = 2 ^ (F.expBits - 1) - 1 := rfl
  have := Nat.two_pow_pos (F.expBits - 1)
  omega

theorem maxExponent_eq : F.maxExponent = 2 * F.bias + 1 := by
  have top : F.maxExponent = 2 ^ F.expBits - 1 := rfl
  rw [top, F.two_pow_expBits]
  omega

end Format

namespace Binary

variable {F : Format}

theorem fraction_lt (x : Binary F) : x.fraction.toNat < F.hiddenBit := x.fraction.isLt

theorem exponent_le (x : Binary F) : x.exponent.toNat ≤ 2 * F.bias + 1 := by
  have := x.exponent.isLt
  rw [F.two_pow_expBits] at this
  omega

theorem isFinite_iff (x : Binary F) : x.isFinite ↔ x.exponent.toNat ≤ 2 * F.bias := by
  have top : (BitVec.allOnes F.expBits).toNat = 2 * F.bias + 1 := by
    rw [BitVec.toNat_allOnes, F.two_pow_expBits]
    omega
  have := x.exponent_le
  rw [isFinite, bne_iff_ne, ne_eq, BitVec.toNat_eq, top]
  omega

theorem not_isNaN_of_isFinite {x : Binary F} (h : x.isFinite) : x.isNaN = false := by
  rw [isFinite_eq] at h
  simpa using (Bool.and_eq_true_iff.mp h).2

theorem scaledMagnitude_eq (x : Binary F) :
    x.scaledMagnitude = if x.exponent.toNat = 0 then x.fraction.toNat
      else (F.hiddenBit + x.fraction.toNat) * 2 ^ (x.exponent.toNat - 1) := by
  rw [scaledMagnitude, Nat.shiftLeft_eq]
  simp only [BitVec.toNat_eq, BitVec.ofNat_eq_ofNat, BitVec.toNat_ofNat, Nat.zero_mod]

theorem scaledMagnitude_lt (x : Binary F) :
    x.scaledMagnitude < F.hiddenBit * 2 ^ x.exponent.toNat := by
  have hf := x.fraction_lt
  rw [scaledMagnitude_eq]
  split
  · rename_i low
    rw [low, pow_zero, Nat.mul_one]
    exact hf
  · rename_i high
    calc (F.hiddenBit + x.fraction.toNat) * 2 ^ (x.exponent.toNat - 1)
      _ < F.hiddenBit * 2 * 2 ^ (x.exponent.toNat - 1) :=
        Nat.mul_lt_mul_of_pos_right (by omega) (Nat.two_pow_pos _)
      _ = F.hiddenBit * 2 ^ x.exponent.toNat := by
        rw [Nat.mul_assoc, ← pow_succ', Nat.sub_add_cancel (by omega)]

theorem le_scaledMagnitude {x : Binary F} (h : 0 < x.exponent.toNat) :
    F.hiddenBit * 2 ^ (x.exponent.toNat - 1) ≤ x.scaledMagnitude := by
  rw [scaledMagnitude_eq, if_neg (by omega)]
  exact Nat.mul_le_mul_right _ (Nat.le_add_right _ _)

theorem scaledMagnitude_lt_of_exponent_lt {x y : Binary F}
    (h : x.exponent.toNat < y.exponent.toNat) : x.scaledMagnitude < y.scaledMagnitude := by
  calc x.scaledMagnitude < F.hiddenBit * 2 ^ x.exponent.toNat := x.scaledMagnitude_lt
    _ ≤ F.hiddenBit * 2 ^ (y.exponent.toNat - 1) :=
      Nat.mul_le_mul_left _ (Nat.pow_le_pow_right (by decide) (by omega))
    _ ≤ y.scaledMagnitude := le_scaledMagnitude (by omega)

/-- A word is determined by its sign and its count. -/
theorem eq_of_count {x y : Binary F} (sign : x.negative = y.negative)
    (count : x.scaledMagnitude = y.scaledMagnitude) : x = y := by
  have exponent : x.exponent.toNat = y.exponent.toNat := by
    rcases Nat.lt_trichotomy x.exponent.toNat y.exponent.toNat with lt | eq | gt
    · exact absurd count (scaledMagnitude_lt_of_exponent_lt lt).ne
    · exact eq
    · exact absurd count (scaledMagnitude_lt_of_exponent_lt gt).ne'
  have fraction : x.fraction.toNat = y.fraction.toNat := by
    rw [scaledMagnitude_eq, scaledMagnitude_eq, exponent] at count
    split at count
    · exact count
    · exact Nat.add_left_cancel (Nat.eq_of_mul_eq_mul_right (Nat.two_pow_pos _) count)
  cases x with | mk s e f =>
    cases y with | mk t g k =>
      rw [mk.injEq]
      exact ⟨sign, BitVec.eq_of_toNat_eq exponent, BitVec.eq_of_toNat_eq fraction⟩

theorem isFinite_zero (s : Bool) : (zero s : Binary F).isFinite := by
  rw [isFinite_iff]
  simp [zero]

@[simp] theorem scaledMagnitude_zero (s : Bool) : (zero s : Binary F).scaledMagnitude = 0 := by
  rw [← natAbs_scaled, scaled_zero, Int.natAbs_zero]

theorem scaledMagnitude_eq_zero_iff (x : Binary F) :
    x.scaledMagnitude = 0 ↔ x = zero x.negative := by
  constructor
  · intro h
    exact eq_of_count rfl (by rw [h, scaledMagnitude_zero])
  · intro h
    rw [h, scaledMagnitude_zero]

/-- The significant bits fit into the fraction and the bit before it, and the number is finite. -/
def Fits (F : Format) (n : Nat) : Prop :=
  ∃ m d, n = m * 2 ^ d ∧ m < 2 * F.hiddenBit ∧ d < 2 * F.bias

/-- Of all ways to write a count the one without leading zeros drops the bits that rounding drops. -/
theorem Fits.normal {n : Nat} (h : Fits F n) :
    ∃ m, n = m * 2 ^ droppedBits F n 1 ∧ m < 2 * F.hiddenBit ∧ droppedBits F n 1 < 2 * F.bias ∧
      (F.hiddenBit ≤ m ∨ droppedBits F n 1 = 0) := by
  obtain ⟨m, d, hn, hm, hd⟩ := h
  have bits : droppedBits F n 1 = n.log2 - F.fracBits := by rw [droppedBits, Nat.div_one]
  rcases Nat.eq_zero_or_pos n with zero | pos
  · have none : droppedBits F n 1 = 0 := by rw [bits, zero, Nat.log2_zero, Nat.zero_sub]
    have := F.bias_pos
    have := F.hiddenBit_pos
    exact ⟨0, by simp [zero], by omega, by omega, Or.inr none⟩
  · have le : droppedBits F n 1 ≤ d := by
      have lt : n < 2 ^ (F.fracBits + 1 + d) := by
        rw [hn, Nat.pow_add, Nat.pow_succ, Nat.mul_comm (2 ^ F.fracBits) 2]
        exact Nat.mul_lt_mul_of_pos_right hm (Nat.two_pow_pos d)
      have := (Nat.log2_lt pos.ne').mpr lt
      omega
    generalize hk : droppedBits F n 1 = k at bits le ⊢
    have value : n = m * 2 ^ (d - k) * 2 ^ k := by
      rw [hn, Nat.mul_assoc, ← Nat.pow_add, Nat.sub_add_cancel le]
    refine ⟨m * 2 ^ (d - k), value, ?_, by omega, ?_⟩
    · have lt : n < 2 * F.hiddenBit * 2 ^ k := by
        calc n < 2 ^ (n.log2 + 1) := Nat.lt_log2_self
          _ ≤ 2 ^ (1 + F.fracBits + k) := Nat.pow_le_pow_right (by decide) (by omega)
          _ = 2 * F.hiddenBit * 2 ^ k := by rw [pow_add, pow_add, F.hiddenBit_eq, pow_one]
      rw [value] at lt
      exact Nat.lt_of_mul_lt_mul_right lt
    · by_cases none : k = 0
      · exact Or.inr none
      · left
        have le : F.hiddenBit * 2 ^ k ≤ n := by
          rw [F.hiddenBit_eq, ← Nat.pow_add, show F.fracBits + k = n.log2 by omega]
          exact Nat.log2_self_le pos.ne'
        rw [value] at le
        exact Nat.le_of_mul_le_mul_right le (Nat.two_pow_pos k)

theorem roundedMagnitude_of_fits {n m : Nat} (value : n = m * 2 ^ droppedBits F n 1)
    (hm : m < 2 * F.hiddenBit) (hd : droppedBits F n 1 < 2 * F.bias) :
    roundedMagnitude F n 1 = droppedBits F n 1 * F.hiddenBit + m := by
  have exact : nearestEven n (1 <<< droppedBits F n 1) = m := by
    rw [Nat.shiftLeft_eq, Nat.one_mul]
    generalize droppedBits F n 1 = k at value
    rw [nearestEven_of_dvd (Nat.two_pow_pos k) ⟨m, by rw [value, Nat.mul_comm]⟩, value,
      Nat.mul_div_cancel _ (Nat.two_pow_pos k)]
  have small : droppedBits F n 1 * F.hiddenBit + m ≤ infinityMagnitude F := by
    have rows : (droppedBits F n 1 + 2) * F.hiddenBit ≤ infinityMagnitude F := by
      rw [infinityMagnitude, F.maxExponent_eq]
      exact Nat.mul_le_mul_right _ (by omega)
    rw [Nat.add_mul] at rows
    omega
  rw [roundedMagnitude, exact, Nat.min_eq_left small]

theorem exponent_ofMagnitude {s : Bool} {e f : Nat} (hf : f < F.hiddenBit)
    (he : e ≤ 2 * F.bias + 1) :
    (ofMagnitude s (e * F.hiddenBit + f) : Binary F).exponent.toNat = e := by
  have row : (e * F.hiddenBit + f) / F.hiddenBit = e := by
    rw [Nat.mul_comm, Nat.mul_add_div F.hiddenBit_pos, Nat.div_eq_of_lt hf, Nat.add_zero]
  rw [ofMagnitude, BitVec.toNat_ofNat, row, F.two_pow_expBits]
  exact Nat.mod_eq_of_lt (by omega)

theorem fraction_ofMagnitude {s : Bool} {e f : Nat} (hf : f < F.hiddenBit) :
    (ofMagnitude s (e * F.hiddenBit + f) : Binary F).fraction.toNat = f := by
  rw [ofMagnitude, BitVec.toNat_ofNat, ← F.hiddenBit_eq, Nat.mul_comm, Nat.mul_add_mod]
  exact Nat.mod_eq_of_lt hf

/-- With the bit before the fraction the magnitude runs into the next exponent, which is the one that
the significand needs. -/
theorem scaledMagnitude_ofMagnitude {s : Bool} {m d : Nat} (hm : m < 2 * F.hiddenBit)
    (hd : d < 2 * F.bias) (normal : F.hiddenBit ≤ m ∨ d = 0) :
    (ofMagnitude s (d * F.hiddenBit + m) : Binary F).scaledMagnitude = m * 2 ^ d ∧
      (ofMagnitude s (d * F.hiddenBit + m) : Binary F).isFinite := by
  rw [isFinite_iff, scaledMagnitude_eq]
  by_cases hidden : F.hiddenBit ≤ m
  · have carry : d * F.hiddenBit + m = (d + 1) * F.hiddenBit + (m - F.hiddenBit) := by
      rw [Nat.add_mul]
      omega
    rw [carry, exponent_ofMagnitude (by omega) (by omega), fraction_ofMagnitude (by omega),
      if_neg (Nat.succ_ne_zero d), Nat.add_sub_cancel' hidden, Nat.add_sub_cancel]
    exact ⟨rfl, by omega⟩
  · have low : d = 0 := normal.resolve_left hidden
    rw [low, exponent_ofMagnitude (by omega) (by omega), fraction_ofMagnitude (by omega), if_pos rfl,
      pow_zero, Nat.mul_one]
    exact ⟨rfl, by omega⟩

/-- A count that fits is rounded to the number that has it. -/
theorem ofRatio_exact (s : Bool) {n : Nat} (h : Fits F n) :
    (ofRatio F s n 1).scaledMagnitude = n ∧ (ofRatio F s n 1).isFinite := by
  obtain ⟨m, value, hm, hd, normal⟩ := h.normal
  rw [ofRatio, roundedMagnitude_of_fits value hm hd]
  obtain ⟨scaled, finite⟩ := scaledMagnitude_ofMagnitude (s := s) hm hd normal
  exact ⟨scaled.trans value.symm, finite⟩

theorem scaled_of_sign {x : Binary F} {s : Int} (sign : x.negative = decide (s < 0))
    (count : x.scaledMagnitude = s.natAbs) : x.scaled = s := by
  rw [scaled, sign, count]
  by_cases h : s < 0
  · rw [if_pos (by simpa using h)]
    omega
  · rw [if_neg (by simpa using h)]
    omega

theorem negative_of_scaled_ne_zero {x : Binary F} (h : x.scaled ≠ 0) :
    x.negative = decide (x.scaled < 0) := by
  unfold scaled at h ⊢
  cases x.negative
  · simp
  · simp only [if_true] at h ⊢
    exact (decide_eq_true (by omega)).symm

/-- A sum whose exact value is a number of the format is that number. -/
theorem add_exact {x y : Binary F} (hx : x.isFinite) (hy : y.isFinite)
    (h : Fits F (x.scaled + y.scaled).natAbs) :
    (x + y).isFinite ∧ (x + y).scaled = x.scaled + y.scaled := by
  rw [add_eq_addFinite hx hy, addFinite]
  split
  · rename_i none
    rw [none, scaled_zero]
    exact ⟨isFinite_zero false, rfl⟩
  · obtain ⟨count, finite⟩ := ofRatio_exact (decide (x.scaled + y.scaled < 0)) h
    exact ⟨finite, scaled_of_sign rfl count⟩

end Binary

end TracedMath
