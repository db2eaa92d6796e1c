import TracedMath.Build
import TracedMath.Decimal.Plain
import TracedMath.Log.Facade

/-!
Calls that report errors through errno, and the trace records around them. A traced call starts with
a clear errno. One that leaves it clear gives its caller the earlier value back.
-/

namespace TracedMath

/-- What a call can change: the errno of its thread, and the log that all threads share. -/
structure Context where
  errno : ErrorCode
  log : Log.Facade
  deriving DecidableEq, Repr

namespace Context

/-- Makes a trace record. Endpoints are expected not to panic here. -/
def trace (c : Context) (site : Log.Site) (message : String) : Context :=
  { c with log := (c.log.emit (site.record .trace message)).2 }

/-- Stores the error of a failed result and goes on with the fallback. -/
def orErrno (c : Context) (result : Except ErrorCode α) (fallback : α) : α × Context :=
  match result with
  | .ok a => (a, c)
  | .error e => (fallback, { c with errno := e })

end Context

/-- The message of the closing record. -/
def closingMessage (label result : String) (e : ErrorCode) : String :=
  label ++ " = " ++ result ++ " (" ++ toString e.code.toInt ++ ", " ++ e.describe ++ ")"

/-- The closing record shows the errno that the body left, before the caller's is put back. -/
def traced (tracing : Bool) (site : Log.Site) (label : String) (text : α → String)
    (body : Context → α × Context) (c : Context) : α × Context :=
  if tracing then
    let (a, inner) := body { c.trace site label with errno := .success }
    let outer := { inner with errno := if inner.errno = ErrorCode.success then c.errno else inner.errno }
    (a, outer.trace site (closingMessage label (text a) inner.errno))
  else body c

/-- A call by its name in the log and the place that its records come from. -/
structure EntryPoint where
  name : String
  site : Log.Site
  deriving DecidableEq, Repr

namespace EntryPoint

def ceil : EntryPoint := ⟨"ceil", ⟨"ansimath::header::math", 35⟩⟩

def ceilf : EntryPoint := ⟨"ceilf", ⟨"ansimath::header::math", 40⟩⟩

def label {F : Format} (p : EntryPoint) (x : Binary F) : String := p.name ++ "(" ++ x.text ++ ")"

/-- The ceiling of a number. An argument outside the domain is returned as it is. -/
def callCeil {F : Format} (p : EntryPoint) (b : Build) (x : Binary F) : Context → Binary F × Context :=
  traced b.tracing p.site (p.label x) Binary.text fun c => c.orErrno (x.ceilWith b.mode) x

end EntryPoint

def ceil (b : Build) (x : Binary64) : Context → Binary64 × Context := EntryPoint.ceil.callCeil b x

def ceilf (b : Build) (x : Binary32) : Context → Binary32 × Context := EntryPoint.ceilf.callCeil b x

theorem Context.orErrno_log (c : Context) (result : Except ErrorCode α) (fallback : α) :
    (c.orErrno result fallback).2.log = c.log := by
  cases result <;> rfl

theorem traced_off (site : Log.Site) (label : String) (text : α → String)
    (body : Context → α × Context) (c : Context) : traced false site label text body c = body c := rfl

/-- The body of a traced call runs with a clear errno, after the opening record. -/
theorem traced_result (site : Log.Site) (label : String) (text : α → String)
    (body : Context → α × Context) (c : Context) :
    (traced true site label text body c).1 =
      (body { c.trace site label with errno := .success }).1 := rfl

theorem traced_errno (site : Log.Site) (label : String) (text : α → String)
    (body : Context → α × Context) (c : Context) :
    (traced true site label text body c).2.errno =
      if (body { c.trace site label with errno := .success }).2.errno = .success then c.errno
      else (body { c.trace site label with errno := .success }).2.errno := rfl

/-- A traced call never clears an errno. -/
theorem traced_errno_ne_success (site : Log.Site) (label : String) (text : α → String)
    (body : Context → α × Context) {c : Context} (h : c.errno ≠ .success) :
    (traced true site label text body c).2.errno ≠ .success := by
  rw [traced_errno]
  split
  · exact h
  · assumption

end TracedMath
