namespace TracedMath

/-- The field widths of a format. The last field lets every number with a fraction be rounded to a
neighbouring integer without leaving the format. -/
structure Format where
  expBits : Nat
  fracBits : Nat
  two_le_expBits : 2 ≤ expBits := by decide
  fracBits_pos : 0 < fracBits := by decide
  fracBits_lt_bias : fracBits < Nat.pow 2 (expBits - 1) - 1 := by decide

namespace Format

def binary64 : Format where
  expBits := 11
  fracBits := 52

def binary32 : Format where
  expBits := 8
  fracBits := 23

abbrev width (F : Format) : Nat := 1 + F.expBits + F.fracBits

/-- The exponent field of the numbers from one up to two. -/
def bias (F : Format) : Nat := Nat.pow 2 (F.expBits - 1) - 1

/-- The exponent field of the infinities and NaNs. -/
def maxExponent (F : Format) : Nat := Nat.pow 2 F.expBits - 1

/-- The bit that stands before the fraction of a normal number, in terms of the fraction's last. -/
def hiddenBit (F : Format) : Nat := Nat.pow 2 F.fracBits

/-- The least positive number is two to minus this exponent. -/
def unitExponent (F : Format) : Nat := F.bias - 1 + F.fracBits

/-- How many of the least positive numbers add up to one. -/
def unitsInOne (F : Format) : Nat := Nat.pow 2 F.unitExponent

end Format

/-- A number of the format, NaNs and infinities included. -/
structure Binary (F : Format) where
  negative : Bool
  exponent : BitVec F.expBits
  fraction : BitVec F.fracBits
  deriving DecidableEq, Repr

abbrev Binary64 := Binary Format.binary64
abbrev Binary32 := Binary Format.binary32

namespace Binary

variable {F : Format}

/-- The sign comes first, then the exponent, then the fraction. -/
def toBits (x : Binary F) : BitVec F.width :=
  BitVec.ofBool x.negative ++ x.exponent ++ x.fraction

def ofBits (w : BitVec F.width) : Binary F where
  negative := w.msb
  exponent := w.extractLsb' F.fracBits F.expBits
  fraction := w.extractLsb' 0 F.fracBits

/-- All exponent bits are set in the infinities and NaNs alone. -/
def isFinite (x : Binary F) : Bool := x.exponent != BitVec.allOnes F.expBits

def isInfinite (x : Binary F) : Bool :=
  x.exponent == BitVec.allOnes F.expBits && x.fraction == 0#F.fracBits

def isNaN (x : Binary F) : Bool :=
  x.exponent == BitVec.allOnes F.expBits && x.fraction != 0#F.fracBits

def zero (negative : Bool) : Binary F := ⟨negative, 0, 0⟩

def one : Binary F := ⟨false, BitVec.ofNat _ F.bias, 0⟩

def infinity (negative : Bool) : Binary F := ⟨negative, BitVec.allOnes _, 0⟩

/-- The NaN that arithmetic yields: quiet, with no other fraction bit. -/
def nan : Binary F := ⟨false, BitVec.allOnes _, BitVec.twoPow _ (F.fracBits - 1)⟩

/-- Flips the sign bit, of a NaN too. -/
instance : Neg (Binary F) where
  neg x := { x with negative := !x.negative }

/-- The exponent and the fraction read as one number. It grows with the absolute value. -/
def magnitude (x : Binary F) : Nat := x.exponent.toNat * F.hiddenBit + x.fraction.toNat

/-- Bits past the two fields are dropped. -/
def ofMagnitude (negative : Bool) (m : Nat) : Binary F where
  negative := negative
  exponent := BitVec.ofNat _ (m / F.hiddenBit)
  fraction := BitVec.ofNat _ m

@[simp] theorem ofBits_toBits (x : Binary F) : ofBits x.toBits = x := by
  cases x with | mk s e f =>
    simp only [toBits, ofBits, mk.injEq]
    refine ⟨?_, ?_, ?_⟩
    · simp [BitVec.msb_append]
    · ext i hi
      simp [BitVec.getElem_extractLsb', BitVec.getLsbD_append, hi]
    · ext i hi
      simp [BitVec.getElem_extractLsb', BitVec.getLsbD_append, hi]

@[simp] theorem toBits_ofBits (w : BitVec F.width) : (ofBits w : Binary F).toBits = w := by
  apply BitVec.eq_of_getLsbD_eq
  intro i hi
  simp only [toBits, ofBits, BitVec.getLsbD_append, BitVec.getLsbD_extractLsb', BitVec.getLsbD_ofBool]
  by_cases hf : i < F.fracBits
  · simp [hf]
  · by_cases he : i - F.fracBits < F.expBits
    · have : F.fracBits + (i - F.fracBits) = i := by omega
      simp [hf, he, this]
    · have width : F.width = 1 + F.expBits + F.fracBits := rfl
      have last : F.width - 1 = i := by omega
      rw [if_neg hf, if_neg he, BitVec.msb_eq_getLsbD_last, last]
      simp [show i - F.fracBits - F.expBits = 0 by omega]

theorem isFinite_eq (x : Binary F) : x.isFinite = (!x.isInfinite && !x.isNaN) := by
  simp only [isNaN, isInfinite, isFinite, bne]
  cases x.exponent == BitVec.allOnes F.expBits <;> cases x.fraction == 0#F.fracBits <;> rfl

end Binary

end TracedMath
