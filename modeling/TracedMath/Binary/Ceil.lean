import TracedMath.Binary.Split
import TracedMath.ErrorCode

namespace TracedMath.Binary

variable {F : Format}

/-- How a NaN or an infinite argument is treated. -/
inductive Mode where
  /-- A NaN is a domain error, an infinity is returned as it is. -/
  | ieee
  /-- Nothing is checked: both go through the split. -/
  | lenient
  deriving DecidableEq, Repr

def Mode.name : Mode → String
  | ieee => "Ieee"
  | lenient => "Lenient"

/-- The whole part, or one more if the fraction is positive. -/
def bump (p : Parts F) : Binary F :=
  if (zero false).lt p.fraction then p.whole + one else p.whole

def ceilWith (mode : Mode) (x : Binary F) : Except ErrorCode (Binary F) :=
  match mode with
  | .lenient => .ok (bump x.split)
  | .ieee =>
    if x.isNaN then .error .domain
    else if x.isInfinite then .ok x
    else .ok (bump x.split)

def ceilChecked (x : Binary F) : Except ErrorCode (Binary F) := x.ceilWith .ieee

/-- The lenient mode has no error to fall back from. -/
def ceilLenient (x : Binary F) : Binary F := (x.ceilWith .lenient).toOption.getD x

theorem ceilLenient_eq (x : Binary F) : x.ceilLenient = bump x.split := rfl

theorem ceilWith_eq_error_iff (mode : Mode) (x : Binary F) (e : ErrorCode) :
    x.ceilWith mode = .error e ↔ mode = .ieee ∧ x.isNaN ∧ e = .domain := by
  cases mode
  · by_cases nan : x.isNaN = true
    · simp only [ceilWith, nan, if_true, Except.error.injEq, true_and]
      exact eq_comm
    · by_cases inf : x.isInfinite = true <;> simp [ceilWith, nan, inf]
  · simp [ceilWith]

end TracedMath.Binary
