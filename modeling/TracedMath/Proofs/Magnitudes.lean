import Mathlib.Order.Monotone.Basic
import TracedMath.Proofs.Rounding

/-!
# The row of magnitudes

The exponent and the fraction of a number, read as one number, tell its place among all numbers of its
sign. `countAt` gives the count that belongs to each place: it grows from place to place, the infinity
comes last (`isNaN_eq_false_iff`), and even places hold the numbers with an even fraction.
-/

namespace TracedMath.Binary

variable {F : Format}

/-- The count of the numbers of a magnitude. -/
def countAt (F : Format) (m : Nat) : Nat :=
  if m < F.hiddenBit then m else (F.hiddenBit + m % F.hiddenBit) * 2 ^ (m / F.hiddenBit - 1)

/-- A magnitude is an exponent and a significand, which has its leading bit unless the exponent is the
least. -/
theorem exists_row (F : Format) (m : Nat) :
    ∃ e k, m = e * F.hiddenBit + k ∧ k < 2 * F.hiddenBit ∧ (F.hiddenBit ≤ k ∨ e = 0) := by
  have pos := F.hiddenBit_pos
  by_cases low : m < F.hiddenBit
  · exact ⟨0, m, by omega, by omega, .inr rfl⟩
  · have rest := Nat.mod_lt m pos
    have whole := Nat.div_add_mod' m F.hiddenBit
    have row : 0 < m / F.hiddenBit := Nat.div_pos (by omega) pos
    refine ⟨m / F.hiddenBit - 1, F.hiddenBit + m % F.hiddenBit, ?_, by omega, .inl (by omega)⟩
    rw [Nat.sub_mul, Nat.one_mul]
    have := Nat.le_mul_of_pos_left F.hiddenBit row
    omega

/-- The significand may also be one past the largest, which carries into the exponent. -/
theorem countAt_row {e k : Nat} (le : k ≤ 2 * F.hiddenBit) (normal : F.hiddenBit ≤ k ∨ e = 0) :
    countAt F (e * F.hiddenBit + k) = k * 2 ^ e := by
  have pos := F.hiddenBit_pos
  have split {q r : Nat} (hr : r < F.hiddenBit) :
      (q * F.hiddenBit + r) % F.hiddenBit = r ∧ (q * F.hiddenBit + r) / F.hiddenBit = q := by
    rw [Nat.mul_comm, Nat.mul_add_mod, Nat.mul_add_div pos, Nat.mod_eq_of_lt hr, Nat.div_eq_of_lt hr]
    exact ⟨rfl, rfl⟩
  unfold countAt
  rcases Nat.lt_or_ge k F.hiddenBit with low | high
  · obtain rfl : e = 0 := normal.resolve_left (by omega)
    rw [Nat.zero_mul, Nat.zero_add, if_pos low, pow_zero, Nat.mul_one]
  · rw [if_neg (by omega)]
    rcases Nat.lt_or_ge k (2 * F.hiddenBit) with inside | last
    · obtain ⟨rest, row⟩ := split (q := e + 1) (r := k - F.hiddenBit) (by omega)
      have same : e * F.hiddenBit + k = (e + 1) * F.hiddenBit + (k - F.hiddenBit) := by
        rw [Nat.succ_mul]
        omega
      rw [same, rest, row, Nat.add_sub_cancel' high, Nat.add_sub_cancel]
    · obtain ⟨rest, row⟩ := split (q := e + 2) (r := 0) pos
      have same : e * F.hiddenBit + k = (e + 2) * F.hiddenBit + 0 := by
        rw [Nat.add_mul]
        omega
      have full : k = F.hiddenBit * 2 := by omega
      rw [same, rest, row, full, Nat.add_zero, Nat.mul_assoc, ← pow_succ']
      rfl

theorem countAt_lt_succ (F : Format) (m : Nat) : countAt F m < countAt F (m + 1) := by
  obtain ⟨e, k, rfl, hk, normal⟩ := exists_row F m
  rw [countAt_row hk.le normal, Nat.add_assoc, countAt_row (by omega) (normal.imp_left Nat.le_succ_of_le)]
  exact Nat.mul_lt_mul_of_pos_right (Nat.lt_succ_self k) (Nat.two_pow_pos e)

theorem countAt_strictMono (F : Format) : StrictMono (countAt F) :=
  strictMono_nat_of_lt_succ (countAt_lt_succ F)

theorem scaledMagnitude_eq_countAt (x : Binary F) : x.scaledMagnitude = countAt F x.magnitude := by
  have small := x.fraction_lt
  rw [scaledMagnitude_eq, magnitude]
  split
  · rename_i zero
    rw [zero, countAt_row (by omega) (.inr rfl), pow_zero, Nat.mul_one]
  · rename_i some
    have same : x.exponent.toNat * F.hiddenBit + x.fraction.toNat =
        (x.exponent.toNat - 1) * F.hiddenBit + (F.hiddenBit + x.fraction.toNat) := by
      rw [Nat.sub_mul, Nat.one_mul]
      have := Nat.le_mul_of_pos_left F.hiddenBit (Nat.pos_of_ne_zero some)
      omega
    rw [same, countAt_row (by omega) (.inl (Nat.le_add_right _ _))]

theorem ofMagnitude_magnitude (x : Binary F) : ofMagnitude x.negative x.magnitude = x := by
  have exponent := exponent_ofMagnitude (s := x.negative) x.fraction_lt x.exponent_le
  have fraction := fraction_ofMagnitude (s := x.negative) (e := x.exponent.toNat) x.fraction_lt
  refine eq_of_count rfl ?_
  rw [scaledMagnitude_eq, scaledMagnitude_eq, magnitude, exponent, fraction]

theorem magnitude_ofMagnitude {s : Bool} {m : Nat} (le : m ≤ infinityMagnitude F) :
    (ofMagnitude s m : Binary F).magnitude = m := by
  have rest := Nat.mod_lt m F.hiddenBit_pos
  have row : m / F.hiddenBit ≤ 2 * F.bias + 1 := by
    rw [← F.maxExponent_eq]
    exact Nat.div_le_of_le_mul (by rwa [Nat.mul_comm])
  have exponent := exponent_ofMagnitude (s := s) rest row
  have fraction := fraction_ofMagnitude (F := F) (s := s) (e := m / F.hiddenBit) rest
  rw [Nat.div_add_mod' m F.hiddenBit] at exponent fraction
  rw [magnitude, exponent, fraction, Nat.div_add_mod' m F.hiddenBit]

/-- Past the infinity there are only NaNs. -/
theorem isNaN_eq_false_iff (x : Binary F) : x.isNaN = false ↔ x.magnitude ≤ infinityMagnitude F := by
  have small := x.fraction_lt
  have top : (BitVec.allOnes F.expBits).toNat = 2 * F.bias + 1 := by
    rw [BitVec.toNat_allOnes, F.two_pow_expBits]
    omega
  have last : x.exponent = BitVec.allOnes F.expBits ↔ x.exponent.toNat = 2 * F.bias + 1 := by
    rw [BitVec.toNat_eq, top]
  have none : x.fraction = 0#F.fracBits ↔ x.fraction.toNat = 0 := by
    rw [BitVec.toNat_eq, BitVec.toNat_ofNat, Nat.zero_mod]
  have named : x.isNaN = false ↔ (x.exponent.toNat = 2 * F.bias + 1 → x.fraction.toNat = 0) := by
    rw [← last, ← none]
    simp [isNaN, bne]
  rw [named, infinityMagnitude, F.maxExponent_eq, magnitude]
  rcases Nat.lt_or_ge x.exponent.toNat (2 * F.bias + 1) with below | above
  · have rows : (x.exponent.toNat + 1) * F.hiddenBit ≤ (2 * F.bias + 1) * F.hiddenBit :=
      Nat.mul_le_mul_right _ below
    rw [Nat.succ_mul] at rows
    constructor <;> intros <;> omega
  · have exponent : x.exponent.toNat = 2 * F.bias + 1 := le_antisymm x.exponent_le above
    rw [exponent]
    constructor
    · intro h
      rw [h rfl, Nat.add_zero]
    · intro h _
      omega

theorem hiddenBit_even (F : Format) : F.hiddenBit % 2 = 0 := by
  rw [F.hiddenBit_eq, ← Nat.sub_add_cancel F.fracBits_pos, pow_succ]
  exact Nat.mul_mod_left _ _

/-- The last bit of a magnitude is the last bit of its fraction. -/
theorem magnitude_mod_two (x : Binary F) : x.magnitude % 2 = x.fraction.toNat % 2 := by
  have even : x.exponent.toNat * F.hiddenBit % 2 = 0 := by
    rw [Nat.mul_mod, hiddenBit_even, Nat.mul_zero]
  rw [magnitude, Nat.add_mod, even, Nat.zero_add, Nat.mod_mod]

end TracedMath.Binary
