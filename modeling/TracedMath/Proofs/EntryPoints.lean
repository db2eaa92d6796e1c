import TracedMath.Call
import TracedMath.Proofs.Emission

namespace TracedMath

open Log (Note)

variable {F : Format}

/-- The opening record of a call, the records made within it, and the closing record, which shows what
the call has returned and the code, in digits and in words, that its body has left. -/
def bracket (site : Log.Site) (label value : String) (e : ErrorCode) (inside : List Note) : List Note :=
  ⟨site, label⟩ :: inside ++
    [⟨site, label ++ " = " ++ value ++ " (" ++ toString e.code.toInt ++ ", " ++ e.describe ++ ")"⟩]

/-- The records that a body makes stand between those of the call. -/
theorem traced_log (site : Log.Site) (label : String) (text : α → String)
    (body : Context → α × Context) (c : Context) (inside : List Note)
    (h : (body { c.trace site label with errno := .success }).2.log =
      (c.trace site label).log.emitAll (inside.map Note.record)) :
    let ran := body { c.trace site label with errno := .success }
    (traced true site label text body c).2.log =
      c.log.emitAll ((bracket site label (text ran.1) ran.2.errno inside).map Note.record) := by
  intro ran
  let closing : Note := ⟨site, closingMessage label (text ran.1) ran.2.errno⟩
  have closed : (traced true site label text body c).2.log = (ran.2.log.emit closing.record).2 := rfl
  have opened : (c.trace site label).log = (c.log.emit (Note.record ⟨site, label⟩)).2 := rfl
  rw [closed, h, opened, bracket, List.map_append, Log.Facade.emitAll_append]
  rfl

/-- The code of a failed result. A value raises nothing. -/
def raised : Except ErrorCode α → ErrorCode
  | .ok _ => .success
  | .error e => e

namespace Context

variable {c : Context} {result : Except ErrorCode α} {fallback : α}

theorem orErrno_value : (c.orErrno result fallback).1 = result.toOption.getD fallback := by
  cases result <;> rfl

theorem orErrno_errno_of_clear (clear : c.errno = .success) :
    (c.orErrno result fallback).2.errno = raised result := by
  cases result with
  | ok a => exact clear
  | error e => rfl

end Context

/-- An error of the ceiling is never the code that means success. -/
theorem raised_ceilWith (mode : Binary.Mode) (x : Binary F) :
    raised (x.ceilWith mode) = if mode = .ieee ∧ x.isNaN then .domain else .success := by
  cases result : x.ceilWith mode with
  | ok y =>
    have no_error : ¬(mode = .ieee ∧ x.isNaN) := by
      rintro ⟨ieee, nan⟩
      have refused := (Binary.ceilWith_eq_error_iff mode x .domain).mpr ⟨ieee, nan, rfl⟩
      rw [result] at refused
      cases refused
    exact (if_neg no_error).symm
  | error e =>
    obtain ⟨ieee, nan, rfl⟩ := (Binary.ceilWith_eq_error_iff mode x e).mp result
    exact (if_pos ⟨ieee, nan⟩).symm

namespace EntryPoint

variable (p : EntryPoint) (b : Build) (x : Binary F) (c : Context)

/-- The number that a call returns. -/
def returned (mode : Binary.Mode) (x : Binary F) : Binary F := (x.ceilWith mode).toOption.getD x

/-- The records that a call makes. -/
def notes : List Note :=
  if b.tracing then
    bracket p.site (p.label x) (returned b.mode x).text (raised (x.ceilWith b.mode)) []
  else []

theorem callCeil_value : (p.callCeil b x c).1 = returned b.mode x := by
  rw [callCeil]
  cases b.tracing with
  | false => exact Context.orErrno_value
  | true => exact Context.orErrno_value

theorem callCeil_errno :
    (p.callCeil b x c).2.errno =
      if raised (x.ceilWith b.mode) = .success then c.errno else raised (x.ceilWith b.mode) := by
  rw [callCeil]
  cases b.tracing with
  | true => rw [traced_errno, Context.orErrno_errno_of_clear rfl]
  | false =>
    rw [traced_off]
    cases result : x.ceilWith b.mode with
    | ok y => exact (if_pos rfl).symm
    | error e =>
      obtain ⟨-, -, rfl⟩ := (Binary.ceilWith_eq_error_iff b.mode x e).mp result
      exact (if_neg ErrorCode.domain_ne_success).symm

theorem callCeil_log :
    (p.callCeil b x c).2.log = c.log.emitAll ((p.notes b x).map Note.record) := by
  rw [callCeil, notes]
  cases b.tracing with
  | false => exact Context.orErrno_log _ _ _
  | true =>
    have whole := traced_log p.site (p.label x) Binary.text
      (fun c => c.orErrno (x.ceilWith b.mode) x) c [] (Context.orErrno_log _ _ _)
    rw [whole, Context.orErrno_value, Context.orErrno_errno_of_clear rfl]
    rfl

/-- A call stands for the result of the ceiling: it returns the value with errno as it was before, or
the argument with errno set to the error, and its records make nothing panic. -/
structure Refines (call : Binary F × Context) : Prop where
  value : ∀ y, x.ceilWith b.mode = .ok y → call.1 = y ∧ call.2.errno = c.errno
  error : ∀ e, x.ceilWith b.mode = .error e → call.1 = x ∧ call.2.errno = e
  errno : call.2.errno = if b.mode = .ieee ∧ x.isNaN then .domain else c.errno
  log : call.2.log = c.log.emitAll ((p.notes b x).map Note.record)
  returns : c.log.panics ((p.notes b x).map Note.record) = false

theorem callCeil_refines (calm : c.log.Calm) : p.Refines b x c (p.callCeil b x c) where
  value := by
    intro y ok
    rw [callCeil_value, callCeil_errno, returned, ok]
    exact ⟨rfl, if_pos rfl⟩
  error := by
    intro e failed
    obtain ⟨-, -, rfl⟩ := (Binary.ceilWith_eq_error_iff b.mode x e).mp failed
    rw [callCeil_value, callCeil_errno, returned, failed]
    exact ⟨rfl, if_neg ErrorCode.domain_ne_success⟩
  errno := by
    rw [callCeil_errno, raised_ceilWith]
    by_cases domain : b.mode = .ieee ∧ x.isNaN
    · rw [if_pos domain, if_pos domain]
      rfl
    · rw [if_neg domain, if_neg domain]
      rfl
  log := p.callCeil_log b x c
  returns := calm.panics _

end EntryPoint

/-- **The entry points stand for results.** In each build, whatever the log is, unless an endpoint
panics, and whatever errno was, the two ceiling calls return what the plain ceiling gives in the mode
of the build. Errno stays, except for a NaN in the checking mode, which sets it to the domain error. -/
theorem entry_points_refine (b : Build) (c : Context) (calm : c.log.Calm) :
    (∀ x : Binary64, EntryPoint.ceil.Refines b x c (ceil b x c)) ∧
      ∀ x : Binary32, EntryPoint.ceilf.Refines b x c (ceilf b x c) := by
  constructor
  · intro x
    exact EntryPoint.ceil.callCeil_refines b x c calm
  · intro x
    exact EntryPoint.ceilf.callCeil_refines b x c calm

/-- A logger on a limited buffer that fails, and errno at the domain error already: a NaN leaves it
there, an infinity does too, and the mode without checks clears nothing. -/
theorem entry_points_refine_domain_error :
    let log : Log.Facade :=
      ⟨some (Log.Logger.build [.output (.buffer ⟨some 3, .fail⟩) (.upTo .trace)]), .upTo .trace,
        Log.Sinks.empty.limit ⟨some 3, .fail⟩⟩
    log.Calm ∧
      (ceil ⟨.ieee, true⟩ .nan ⟨.domain, log⟩).2.errno = .domain ∧
      (ceil ⟨.ieee, true⟩ .nan ⟨.success, log⟩).2.errno = .domain ∧
      (ceilf ⟨.ieee, true⟩ (.infinity true) ⟨.domain, log⟩).2.errno = .domain ∧
      (ceilf ⟨.lenient, true⟩ .nan ⟨.success, log⟩).2.errno = .success := by
  intro log
  have calm : log.Calm := by
    intro l installed buffer onFull
    cases onFull
  refine ⟨calm, ?_, ?_, ?_, ?_⟩
  · exact ((entry_points_refine ⟨.ieee, true⟩ ⟨.domain, log⟩ calm).1 .nan).errno
  · exact ((entry_points_refine ⟨.ieee, true⟩ ⟨.success, log⟩ calm).1 .nan).errno
  · exact ((entry_points_refine ⟨.ieee, true⟩ ⟨.domain, log⟩ calm).2 (.infinity true)).errno
  · exact ((entry_points_refine ⟨.lenient, true⟩ ⟨.success, log⟩ calm).2 .nan).errno

end TracedMath
