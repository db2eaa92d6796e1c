import TracedMath.Binary.Value

/-!
Rounding to the nearest number of a format, a half to the even neighbour. The quotient to round is
given in least positive numbers, so subnormal results need no case of their own.
-/

namespace TracedMath

/-- The natural number nearest to `n / d`, a half to the even neighbour. -/
def nearestEven (n d : Nat) : Nat :=
  let q := n / d
  if 2 * (n % d) < d then q else if d < 2 * (n % d) then q + 1 else q + q % 2

namespace Binary

/-- The magnitude of the infinities: they follow the largest finite number. -/
def infinityMagnitude (F : Format) : Nat := F.maxExponent * F.hiddenBit

/-- How many low bits of a quotient the fraction field has no room for. -/
def droppedBits (F : Format) (n d : Nat) : Nat := Nat.log2 (n / d) - F.fracBits

/-- A carry out of the fraction moves on into the exponent, and past the last exponent it gives the
infinity. -/
def roundedMagnitude (F : Format) (n d : Nat) : Nat :=
  let dropped := droppedBits F n d
  min (dropped * F.hiddenBit + nearestEven n (d <<< dropped)) (infinityMagnitude F)

/-- The number nearest to `n / d` least positive numbers. -/
def ofRatio (F : Format) (negative : Bool) (n d : Nat) : Binary F :=
  ofMagnitude negative (roundedMagnitude F n d)

end Binary

theorem nearestEven_of_dvd {n d : Nat} (hd : 0 < d) (h : d ∣ n) : nearestEven n d = n / d := by
  simp [nearestEven, Nat.mod_eq_zero_of_dvd h, hd]

/-- The rounded quotient is off by half a divisor at most. -/
theorem nearestEven_close (n d : Nat) (hd : 0 < d) :
    2 * n ≤ 2 * d * nearestEven n d + d ∧ 2 * d * nearestEven n d ≤ 2 * n + d := by
  have split := Nat.div_add_mod n d
  have small := Nat.mod_lt n hd
  have up : 2 * d * (n / d + 1) = 2 * (d * (n / d)) + 2 * d := by grind
  have same : 2 * d * (n / d) = 2 * (d * (n / d)) := by grind
  simp only [nearestEven]
  split
  · omega
  · split
    · omega
    · rcases Nat.mod_two_eq_zero_or_one (n / d) with even | odd
      · simp only [even, Nat.add_zero]; omega
      · simp only [odd]; omega

end TracedMath
