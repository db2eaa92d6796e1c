import TracedMath.Binary.Round

namespace TracedMath.Binary

variable {F : Format}

/-- A sum that is exactly zero is a positive zero, unless both terms carry the sign. -/
def addFinite (x y : Binary F) : Binary F :=
  let sum := x.scaled + y.scaled
  if sum = 0 then zero (x.negative && y.negative) else ofRatio F (sum < 0) sum.natAbs 1

/-- Infinities of two signs have no sum. -/
def add (x y : Binary F) : Binary F :=
  if x.isNaN || y.isNaN then nan
  else if x.isInfinite then if y.isInfinite && x.negative != y.negative then nan else x
  else if y.isInfinite then y
  else addFinite x y

instance : Add (Binary F) := ⟨add⟩

instance : Sub (Binary F) := ⟨fun x y => x + -y⟩

theorem sub_eq_add_neg (x y : Binary F) : x - y = x + -y := rfl

theorem add_eq_addFinite {x y : Binary F} (hx : x.isFinite) (hy : y.isFinite) :
    x + y = addFinite x y := by
  rw [isFinite_eq] at hx hy
  simp only [Bool.and_eq_true, Bool.not_eq_true'] at hx hy
  simp [HAdd.hAdd, Add.add, add, hx, hy]

end TracedMath.Binary
