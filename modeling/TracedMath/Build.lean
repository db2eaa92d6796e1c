import TracedMath.Binary.Ceil

namespace TracedMath

/-- Whether calls are traced, and the mode that the ceiling calls use. -/
structure Build where
  mode : Binary.Mode
  tracing : Bool
  deriving DecidableEq, Repr

namespace Build

def standard : Build := ⟨.ieee, true⟩

/-- The four builds under their names. -/
def all : List (String × Build) :=
  [("default", standard),
   ("lenient", ⟨.lenient, true⟩),
   ("no_trace", ⟨.ieee, false⟩),
   ("lenient_no_trace", ⟨.lenient, false⟩)]

end Build

end TracedMath
