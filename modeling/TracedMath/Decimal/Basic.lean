import TracedMath.Binary.Round

namespace TracedMath

/-- The coefficient times a power of ten. The sign is kept of a zero too. -/
structure Decimal where
  negative : Bool
  coefficient : Nat
  exponent : Int
  deriving DecidableEq, Repr

namespace Decimal

def digits (d : Decimal) : List Char := Nat.toDigits 10 d.coefficient

/-- The nearest number of the format, a half to the even neighbour. -/
def toBinary (F : Format) (d : Decimal) : Binary F :=
  .ofRatio F d.negative (d.coefficient * Nat.pow 10 d.exponent.toNat * F.unitsInOne)
    (Nat.pow 10 (-d.exponent).toNat)

/-- Leaves the last `n` digits out. -/
def truncate (d : Decimal) (n : Nat) : Decimal :=
  { d with coefficient := d.coefficient / Nat.pow 10 n, exponent := d.exponent + n }

/-- The next decimal of `places` digits. After nines only comes a one with an exponent to match. -/
def next (d : Decimal) (places : Nat) : Decimal :=
  if d.coefficient + 1 = Nat.pow 10 places then ⟨d.negative, 1, d.exponent + places⟩
  else { d with coefficient := d.coefficient + 1 }

end Decimal

/-- All digits of a finite number. A half of a power of two is a five of the power of ten. -/
def Binary.exactDecimal {F : Format} (x : Binary F) : Decimal :=
  ⟨x.negative, x.scaledMagnitude * Nat.pow 5 F.unitExponent, -F.unitExponent⟩

end TracedMath
