import TracedMath.Proofs.Ceiling

namespace TracedMath.Binary

variable {F : Format}

/-- The nearest whole number on the way to zero. -/
def towardZero (v : Rat) : Int := if v < 0 then ⌈v⌉ else ⌊v⌋

/-- The two parts of a number that point the same way are its truncation and what is left. -/
theorem towardZero_eq {v f : Rat} {k : Int} (sum : v = k + f) (small : |f| < 1)
    (sides : 0 ≤ k ∧ 0 ≤ f ∨ k ≤ 0 ∧ f ≤ 0) : towardZero v = k := by
  obtain ⟨above, below⟩ := abs_lt.mp small
  rw [towardZero]
  rcases sides with ⟨hk, hf⟩ | ⟨hk, hf⟩
  · have hk : (0 : Rat) ≤ k := by exact_mod_cast hk
    rw [if_neg (by linarith), Int.floor_eq_iff]
    constructor <;> linarith
  · split
    · rw [Int.ceil_eq_iff]
      constructor <;> linarith
    · rename_i nonneg
      have hk : (k : Rat) ≤ 0 := by exact_mod_cast hk
      have zero : (k : Rat) = 0 := by linarith
      have none : v = 0 := by linarith
      have zero : k = 0 := by exact_mod_cast zero
      rw [none, zero, Int.floor_zero]

/-- Minus one for the negative numbers, negative zero among them. -/
def direction (negative : Bool) : Int := if negative then -1 else 1

theorem direction_mul_self (s : Bool) : direction s * direction s = 1 := by
  cases s <;> rfl

theorem abs_direction (s : Bool) : |(direction s : Rat)| = 1 := by
  cases s <;> simp [direction]

theorem value_eq_direction (x : Binary F) :
    x.value = direction x.negative * (x.scaledMagnitude / F.unitsInOne) := by
  rw [value, scaled, direction]
  split <;> push_cast <;> ring

theorem abs_value_eq (x : Binary F) : |x.value| = x.scaledMagnitude / F.unitsInOne := by
  have unit := unitsInOne_cast_pos F
  rw [value_eq_direction, abs_mul, abs_direction, one_mul, abs_of_nonneg (by positivity)]

theorem eq_zero_of_value {x : Binary F} (h : x.value = 0) : x = zero x.negative := by
  have none := (value_eq_iff x 0).mp (by rw [h]; rfl)
  rw [← scaledMagnitude_eq_zero_iff, ← natAbs_scaled, none, Int.zero_mul, Int.natAbs_zero]

/-- The parts of a finite number, by their values. -/
structure Parts.Exact (p : Parts F) (x : Binary F) : Prop where
  whole_finite : p.whole.isFinite
  fraction_finite : p.fraction.isFinite
  whole_value : p.whole.value = towardZero x.value
  fraction_value : p.fraction.value = x.value - towardZero x.value
  small : |p.fraction.value| < 1
  sum : p.fraction.value + p.whole.value = x.value
  same_side : 0 ≤ p.fraction.value * x.value
  whole_sign : p.whole.negative = x.negative
  fraction_sign : p.fraction.negative = x.negative
  whole_zero : p.whole.value = 0 → p.whole = zero x.negative
  fraction_zero : p.fraction.value = 0 → p.fraction = zero x.negative

/-- The quotient of a count is the whole part of its value, and the remainder the rest. -/
theorem count_div_unitsInOne (F : Format) (n : Nat) :
    (n / F.unitsInOne : Rat) = (n / F.unitsInOne : Nat) + (n % F.unitsInOne : Nat) / F.unitsInOne := by
  have unit := unitsInOne_cast_pos F
  have split : (n : Rat) = F.unitsInOne * (n / F.unitsInOne : Nat) + (n % F.unitsInOne : Nat) := by
    exact_mod_cast (Nat.div_add_mod n F.unitsInOne).symm
  field_simp
  exact split

namespace Parts.Split

variable {p : Parts F} {x : Binary F}

theorem whole_value (h : p.Split x) :
    p.whole.value = direction x.negative * (x.scaledMagnitude / F.unitsInOne : Nat) := by
  rw [value_eq_direction, h.whole_negative, h.whole_count, Nat.cast_mul,
    mul_div_cancel_right₀ _ (unitsInOne_cast_pos F).ne']

theorem fraction_value (h : p.Split x) :
    p.fraction.value =
      direction x.negative * ((x.scaledMagnitude % F.unitsInOne : Nat) / F.unitsInOne) := by
  rw [value_eq_direction, h.fraction_negative, h.fraction_count]

theorem sum (h : p.Split x) : p.fraction.value + p.whole.value = x.value := by
  rw [h.whole_value, h.fraction_value, value_eq_direction x,
    count_div_unitsInOne F x.scaledMagnitude]
  ring

theorem small (h : p.Split x) : |p.fraction.value| < 1 := by
  have unit := unitsInOne_cast_pos F
  have below_one : ((x.scaledMagnitude % F.unitsInOne : Nat) / F.unitsInOne : Rat) < 1 := by
    rw [div_lt_one unit]
    exact_mod_cast remainder_lt x
  rw [h.fraction_value, abs_mul, abs_direction, one_mul, abs_of_nonneg (by positivity)]
  exact below_one

theorem truncation (h : p.Split x) : p.whole.value = towardZero x.value := by
  have rest : (0 : Rat) ≤ (x.scaledMagnitude % F.unitsInOne : Nat) / F.unitsInOne := by positivity
  have sum := h.sum
  have small := h.small
  rw [h.whole_value, h.fraction_value] at sum
  rw [h.fraction_value] at small
  rw [h.whole_value]
  generalize x.scaledMagnitude / F.unitsInOne = q at *
  have cut : towardZero x.value = direction x.negative * q := by
    apply towardZero_eq _ small
    · cases x.negative
      · left
        simp [direction, rest]
      · right
        simp [direction, rest]
    · rw [← sum, add_comm]
      push_cast
      rfl
  rw [cut]
  push_cast
  rfl

theorem same_side (h : p.Split x) : 0 ≤ p.fraction.value * x.value := by
  have square : (direction x.negative : Rat) * direction x.negative = 1 := by
    exact_mod_cast direction_mul_self x.negative
  rw [h.fraction_value, value_eq_direction x, mul_mul_mul_comm, square, one_mul]
  positivity

theorem exact (h : p.Split x) : p.Exact x where
  whole_finite := h.whole_finite
  fraction_finite := h.fraction_finite
  whole_value := h.truncation
  fraction_value := by
    rw [← h.truncation]
    exact eq_sub_of_add_eq h.sum
  small := h.small
  sum := h.sum
  same_side := h.same_side
  whole_sign := h.whole_negative
  fraction_sign := h.fraction_negative
  whole_zero := by
    intro none
    rw [eq_zero_of_value none, h.whole_negative]
  fraction_zero := by
    intro none
    rw [eq_zero_of_value none, h.fraction_negative]

end Parts.Split

/-- What is not finite has no fraction to be cut off. -/
theorem split_of_not_isFinite {x : Binary F} (h : ¬ x.isFinite) :
    x.split = ⟨if x.isNaN then x else zero x.negative, x⟩ := by
  rw [split, if_pos (exponent_of_not_isFinite h)]

/-- **The split is exact.** The whole part of a finite number is its value cut off towards zero and the
fraction is the rest. An infinity is its own whole part with a zero of its sign, and both parts of a
NaN are the NaN. A caller that passes no place for the whole part keeps what its variable held. -/
theorem split_exact (x : Binary F) :
    (x.isFinite → x.split.Exact x) ∧
    (x.isInfinite → x.split = ⟨zero x.negative, x⟩) ∧
    (x.isNaN → x.split = ⟨x, x⟩) ∧
    ∀ held, x.splitInto true held = (x.split.fraction, x.split.whole) ∧
      x.splitInto false held = (x.split.fraction, held) := by
  refine ⟨fun finite => (split_splits finite).exact, ?_, ?_, fun held => ⟨rfl, rfl⟩⟩
  · intro infinite
    rw [split_of_not_isFinite (by simp [isFinite_eq, infinite]), not_isNaN_of_isInfinite infinite]
    rfl
  · intro nan
    rw [split_of_not_isFinite (by simp [isFinite_eq, nan]), nan]
    rfl

/-- Just below minus one, where the fraction is the least that a double of that size can have; the
least single, which is all fraction; an infinity; and a NaN that arithmetic would not give. -/
theorem split_exact_of_each_kind :
    ((ofBits 0xbff0000000000001 : Binary64).isFinite ∧
      (ofBits 0xbff0000000000001 : Binary64).split =
        ⟨ofBits 0xbcb0000000000000, ofBits 0xbff0000000000000⟩ ∧
      (ofBits 0xbff0000000000001 : Binary64).split.Exact (ofBits 0xbff0000000000001)) ∧
    ((ofBits 0x00000001 : Binary32).isFinite ∧
      (ofBits 0x00000001 : Binary32).split.Exact (ofBits 0x00000001)) ∧
    ((infinity true : Binary64).isInfinite ∧
      (infinity true : Binary64).split = ⟨zero true, infinity true⟩) ∧
    ((ofBits 0xff800001 : Binary32).isNaN ∧
      (ofBits 0xff800001 : Binary32).split = ⟨ofBits 0xff800001, ofBits 0xff800001⟩) := by
  refine ⟨?_, ?_, ?_, ?_⟩
  · have finite : (ofBits 0xbff0000000000001 : Binary64).isFinite := by decide
    exact ⟨finite, by decide +kernel, (split_exact _).1 finite⟩
  · have finite : (ofBits 0x00000001 : Binary32).isFinite := by decide
    exact ⟨finite, (split_exact _).1 finite⟩
  · have infinite : (infinity true : Binary64).isInfinite := by decide
    exact ⟨infinite, (split_exact _).2.1 infinite⟩
  · have nan : (ofBits 0xff800001 : Binary32).isNaN := by decide
    exact ⟨nan, (split_exact _).2.2.1 nan⟩

end TracedMath.Binary
