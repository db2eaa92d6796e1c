namespace TracedMath.Text

/-- Both ends belong to the range. -/
structure CodeRange where
  first : Nat
  last : Nat
  deriving DecidableEq, Repr

def CodeRange.contains (r : CodeRange) (c : Char) : Bool :=
  r.first ≤ c.toNat && c.toNat ≤ r.last

abbrev CharSet := List CodeRange

def CharSet.contains (s : CharSet) (c : Char) : Bool := s.any fun r => r.contains c

end TracedMath.Text
