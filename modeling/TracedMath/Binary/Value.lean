import TracedMath.Binary.Format

namespace TracedMath.Binary

variable {F : Format}

/-- The absolute value counted in least positive numbers. An infinity counts as the next number
after the largest finite one would. -/
def scaledMagnitude (x : Binary F) : Nat :=
  if x.exponent = 0 then x.fraction.toNat
  else (F.hiddenBit + x.fraction.toNat) <<< (x.exponent.toNat - 1)

def scaled (x : Binary F) : Int :=
  if x.negative then -(x.scaledMagnitude : Int) else x.scaledMagnitude

/-- The number that a finite word stands for. -/
def value (x : Binary F) : Rat := x.scaled / F.unitsInOne

/-- A NaN is not less than anything. Scaling puts an infinity past every finite number, so the other
words compare by it. -/
def lt (x y : Binary F) : Bool := !x.isNaN && !y.isNaN && decide (x.scaled < y.scaled)

@[simp] theorem scaled_neg (x : Binary F) : (-x).scaled = -x.scaled := by
  have same : (-x).scaledMagnitude = x.scaledMagnitude := rfl
  have sign : (-x).negative = !x.negative := rfl
  cases h : x.negative <;> simp [scaled, same, sign, h]

theorem natAbs_scaled (x : Binary F) : x.scaled.natAbs = x.scaledMagnitude := by
  unfold scaled
  split <;> simp

@[simp] theorem scaled_zero (s : Bool) : (zero s : Binary F).scaled = 0 := by
  cases s <;> simp [zero, scaled, scaledMagnitude]

end TracedMath.Binary
