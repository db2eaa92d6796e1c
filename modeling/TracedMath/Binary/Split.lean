import TracedMath.Binary.Arithmetic

namespace TracedMath.Binary

variable {F : Format}

structure Parts (F : Format) where
  fraction : Binary F
  whole : Binary F
  deriving DecidableEq, Repr

/-- The fraction bits below the binary point of a number whose exponent is `e` above that of one. -/
def belowPoint (F : Format) (e : Nat) : BitVec F.fracBits := BitVec.allOnes F.fracBits >>> e

/-- A number with no fraction bit below the point is its own whole part, and a number below one its
own fraction. -/
def split (x : Binary F) : Parts F :=
  if F.bias + F.fracBits ≤ x.exponent.toNat then
    ⟨if x.isNaN then x else zero x.negative, x⟩
  else if x.exponent.toNat < F.bias then ⟨x, zero x.negative⟩
  else
    let mask := belowPoint F (x.exponent.toNat - F.bias)
    if x.fraction &&& mask = 0 then ⟨zero x.negative, x⟩
    else
      let whole := { x with fraction := x.fraction &&& ~~~mask }
      ⟨x - whole, whole⟩

/-- Splits for a caller whose variable holds `held`. The whole part goes into it only if its place was
passed along. The result is the fraction and what the variable holds then. -/
def splitInto (x : Binary F) (passed : Bool) (held : Binary F) : Binary F × Binary F :=
  (x.split.fraction, if passed then x.split.whole else held)

end TracedMath.Binary
