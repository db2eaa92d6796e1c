import TracedMath.Binary.Format

namespace TracedMath.Binary

variable {F : Format}

inductive Class where
  | infinite
  | nan
  | normal
  | subnormal
  | zero
  deriving DecidableEq, Repr

def Class.code : Class → Int32
  | infinite => 0
  | nan => 1
  | normal => 2
  | subnormal => 3
  | zero => 4

/-- The exponent field decides, and at its two ends the fraction. -/
def classify (x : Binary F) : Class :=
  if x.exponent = BitVec.allOnes F.expBits then if x.fraction = 0 then .infinite else .nan
  else if x.exponent = 0 then if x.fraction = 0 then .zero else .subnormal
  else .normal

/-- One if the condition holds and zero if not. -/
def flag (b : Bool) : Int32 := if b then 1 else 0

theorem classify_eq_nan_iff (x : Binary F) : x.classify = .nan ↔ x.isNaN := by
  grind [classify, isNaN]

theorem classify_eq_infinite_iff (x : Binary F) : x.classify = .infinite ↔ x.isInfinite := by
  grind [classify, isInfinite]

end TracedMath.Binary
