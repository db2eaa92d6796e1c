import TracedMath.Binary.Class

namespace TracedMath

inductive Constant where
  | code (n : Int32)
  | double (x : Binary64)
  | single (x : Binary32)
  deriving DecidableEq, Repr

/-- Error reporting through errno, and through floating-point exceptions. -/
def reportsErrno : Int32 := 1
def reportsExceptions : Int32 := 2

/-- Domain errors are reported through errno alone. -/
def errorReporting : Int32 := reportsErrno

def mathConstants : List (String × Constant) :=
  [("HUGE_VAL", .double (.infinity false)),
   ("HUGE_VALF", .single (.infinity false)),
   ("INFINITY", .single (.infinity false)),
   ("NAN", .single .nan),
   ("FP_INFINITE", .code Binary.Class.infinite.code),
   ("FP_NAN", .code Binary.Class.nan.code),
   ("FP_NORMAL", .code Binary.Class.normal.code),
   ("FP_SUBNORMAL", .code Binary.Class.subnormal.code),
   ("FP_ZERO", .code Binary.Class.zero.code),
   ("MATH_ERRNO", .code reportsErrno),
   ("MATH_ERREXCEPT", .code reportsExceptions),
   ("math_errhandling", .code errorReporting)]

end TracedMath
