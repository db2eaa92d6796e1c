import TracedMath.Session

/-!
# Tracing does not show

`tracing_transparent`: a program that stores only the codes of errors runs alike in a build that
traces and in one that does not. Between the two runs stands `Shadows`: within a traced block the
build that does not trace still has the errno from before the block, until something is stored.
-/

namespace TracedMath.Session

mutual

/-- No errno is cleared by hand, by this step or within it. -/
def Step.storesErrors : Step → Bool
  | .write _ e => e != .success
  | .orErrno (.error e) _ => e != .success
  | .thread steps => allStoreErrors steps
  | .traced _ _ _ steps => allStoreErrors steps
  | _ => true

def allStoreErrors : List Step → Bool
  | [] => true
  | step :: rest => step.storesErrors && allStoreErrors rest

end

/-- The errno of a step, unless a traced block of its thread encloses the step. -/
def visibleErrno (enclosed : Bool) (e : ErrorCode) : ErrorCode := if enclosed then .success else e

/-- A value without the errno that was read within a traced block. -/
def Value.visible (enclosed : Bool) : Value → Value
  | .code e => if enclosed then .nothing else .code e
  | v => v

mutual

/-- An answer without what the traced blocks of its thread hide. A new thread is in no such block. -/
def Answer.visible (enclosed : Bool) : Answer → Answer
  | .value v e => .value (v.visible enclosed) (visibleErrno enclosed e)
  | .thread answers e => .thread (allVisible false answers) (visibleErrno enclosed e)
  | .traced v answers e => .traced v (allVisible true answers) (visibleErrno enclosed e)

def allVisible (enclosed : Bool) : List Answer → List Answer
  | [] => []
  | a :: rest => a.visible enclosed :: allVisible enclosed rest

end

/-- How the errno `d` of the build that does not trace follows from the errno `e` of the other one.
Within a traced block that began at `before` it is `before` until something is stored. -/
def Shadows : Option ErrorCode → ErrorCode → ErrorCode → Prop
  | none, e, d => d = e
  | some before, e, d => d = if e = .success then before else e

namespace Shadows

variable {before? : Option ErrorCode} {e d : ErrorCode}

theorem stored (h : e ≠ .success) : Shadows before? e e := by
  cases before? with
  | none => rfl
  | some before => exact (if_neg h).symm

theorem entered (d : ErrorCode) : Shadows (some d) .success d := rfl

/-- The errno that a traced block leaves behind. -/
theorem left {inner after : ErrorCode} (h : Shadows before? e d)
    (block : Shadows (some d) inner after) :
    Shadows before? (if inner = .success then e else inner) after := by
  have after_eq : after = if inner = .success then d else inner := block
  by_cases clear : inner = .success
  · rw [if_pos clear] at after_eq ⊢
    rw [after_eq]
    exact h
  · rw [if_neg clear] at after_eq ⊢
    rw [after_eq]
    exact stored clear

theorem visible (h : Shadows before? e d) :
    visibleErrno before?.isSome e = visibleErrno before?.isSome d := by
  cases before? with
  | none =>
    have same : d = e := h
    rw [same]
  | some before => rfl

end Shadows

variable {before? : Option ErrorCode} {c d : Context}

theorem orErrno_shadows {result : Except ErrorCode α} (fallback : α)
    (errors : ∀ e, result = .error e → e ≠ .success) (h : Shadows before? c.errno d.errno) :
    (c.orErrno result fallback).1 = (d.orErrno result fallback).1 ∧
      Shadows before? (c.orErrno result fallback).2.errno (d.orErrno result fallback).2.errno := by
  cases result with
  | ok a => exact ⟨rfl, h⟩
  | error e => exact ⟨rfl, .stored (errors e rfl)⟩

/-- If the body runs alike from a clear errno and from the one that is there, the traced call and the
bare body run alike. -/
theorem traced_shadows (site : Log.Site) (label : String) (text : α → String)
    {body bare : Context → α × Context} (alike : α → α → Prop)
    (h : Shadows before? c.errno d.errno)
    (inside : ∀ inner : Context, inner.errno = .success →
      alike (body inner).1 (bare d).1 ∧
        Shadows (some d.errno) (body inner).2.errno (bare d).2.errno) :
    alike (traced true site label text body c).1 (traced false site label text bare d).1 ∧
      Shadows before? (traced true site label text body c).2.errno
        (traced false site label text bare d).2.errno := by
  obtain ⟨result, errno⟩ := inside { c.trace site label with errno := .success } rfl
  rw [traced_off, traced_result, traced_errno]
  exact ⟨result, h.left errno⟩

theorem callCeil_shadows {F : Format} (p : EntryPoint) (mode : Binary.Mode) (x : Binary F)
    (h : Shadows before? c.errno d.errno) :
    (p.callCeil ⟨mode, true⟩ x c).1 = (p.callCeil ⟨mode, false⟩ x d).1 ∧
      Shadows before? (p.callCeil ⟨mode, true⟩ x c).2.errno
        (p.callCeil ⟨mode, false⟩ x d).2.errno := by
  apply traced_shadows p.site (p.label x) Binary.text Eq h
  intro inner clear
  apply orErrno_shadows
  · intro e he
    obtain ⟨-, -, rfl⟩ := (Binary.ceilWith_eq_error_iff mode x e).mp he
    decide
  · rw [clear]
    exact .entered d.errno

theorem finish_visible {v w : Value} (values : v.visible before?.isSome = w.visible before?.isSome)
    (h : Shadows before? c.errno d.errno) :
    (finish v c).1.visible before?.isSome = (finish w d).1.visible before?.isSome ∧
      Shadows before? (finish v c).2.errno (finish w d).2.errno := by
  simp only [finish, Answer.visible]
  rw [values, h.visible]
  exact ⟨rfl, h⟩

mutual

theorem Step.run_shadows (mode : Binary.Mode) (step : Step) (errors : step.storesErrors)
    {before? : Option ErrorCode} {c d : Context} (h : Shadows before? c.errno d.errno) :
    (step.run ⟨mode, true⟩ c).1.visible before?.isSome =
        (step.run ⟨mode, false⟩ d).1.visible before?.isSome ∧
      Shadows before? (step.run ⟨mode, true⟩ c).2.errno (step.run ⟨mode, false⟩ d).2.errno := by
  cases step with
  | read via =>
    apply finish_visible _ h
    cases before? with
    | none => exact congrArg (fun e => Value.code e) (Eq.symm h)
    | some before => rfl
  | write via e =>
    simp only [Step.storesErrors, bne_iff_ne] at errors
    exact finish_visible rfl (.stored errors)
  | ceil x =>
    obtain ⟨result, errno⟩ := callCeil_shadows .ceil mode x h
    exact finish_visible (congrArg (fun y => (Value.double y).visible _) result) errno
  | ceilf x =>
    obtain ⟨result, errno⟩ := callCeil_shadows .ceilf mode x h
    exact finish_visible (congrArg (fun y => (Value.single y).visible _) result) errno
  | modf x => exact finish_visible rfl h
  | modff x => exact finish_visible rfl h
  | ceilResult x => exact finish_visible rfl h
  | orErrno result fallback =>
    have codes : ∀ e, result = .error e → e ≠ .success := by
      rintro e rfl
      simpa only [Step.storesErrors, bne_iff_ne] using errors
    obtain ⟨value, errno⟩ := orErrno_shadows fallback codes h
    exact finish_visible (congrArg (fun y => (Value.double y).visible _) value) errno
  | thread steps =>
    simp only [Step.storesErrors] at errors
    have fresh : Shadows none ({ c with errno := .success } : Context).errno
        ({ d with errno := .success } : Context).errno := rfl
    obtain ⟨answers, -⟩ := runAll_shadows mode steps errors fresh
    simp only [Step.run, Answer.visible]
    exact ⟨by rw [h.visible]; exact congrArg (fun as => Answer.thread as _) answers, h⟩
  | traced site label value steps =>
    simp only [Step.storesErrors] at errors
    have block := traced_shadows site label (fun _ => value)
      (fun as bs => allVisible true as = allVisible true bs) h fun inner clear =>
        have entered : Shadows (some d.errno) inner.errno d.errno := by rw [clear]; rfl
        runAll_shadows mode steps errors entered
    simp only [Step.run, Answer.visible]
    exact ⟨by rw [block.1, block.2.visible], block.2⟩

theorem runAll_shadows (mode : Binary.Mode) (steps : List Step) (errors : allStoreErrors steps)
    {before? : Option ErrorCode} {c d : Context} (h : Shadows before? c.errno d.errno) :
    allVisible before?.isSome (runAll ⟨mode, true⟩ steps c).1 =
        allVisible before?.isSome (runAll ⟨mode, false⟩ steps d).1 ∧
      Shadows before? (runAll ⟨mode, true⟩ steps c).2.errno
        (runAll ⟨mode, false⟩ steps d).2.errno := by
  cases steps with
  | nil => exact ⟨rfl, h⟩
  | cons step rest =>
    simp only [allStoreErrors, Bool.and_eq_true] at errors
    obtain ⟨answer, errno⟩ := Step.run_shadows mode step errors.1 h
    obtain ⟨answers, last⟩ := runAll_shadows mode rest errors.2 errno
    simp only [runAll, allVisible]
    exact ⟨by rw [answer, answers], last⟩

end

theorem answers_visible (mode : Binary.Mode) (steps : List Step) (errors : allStoreErrors steps)
    {c d : Context} (h : d.errno = c.errno) :
    (answers ⟨mode, true⟩ steps c).map (fun a => a.1.visible false) =
      (answers ⟨mode, false⟩ steps d).map (fun a => a.1.visible false) := by
  induction steps generalizing c d with
  | nil => rfl
  | cons step rest ih =>
    simp only [allStoreErrors, Bool.and_eq_true] at errors
    have drained : Shadows none ({ c with log.sinks := c.log.sinks.drain } : Context).errno
        ({ d with log.sinks := d.log.sinks.drain } : Context).errno := h
    obtain ⟨answer, errno⟩ := Step.run_shadows mode step errors.1 drained
    simp only [answers, List.map_cons]
    exact List.cons_eq_cons.mpr ⟨answer, ih errors.2 errno⟩

/-- **Tracing does not show.** If a program stores only the codes of errors, both builds give the same
errno after each step that no traced block of its thread encloses, and every step returns the same,
but for an errno that is read within such a block. -/
theorem tracing_transparent (mode : Binary.Mode) (receiver? : Option Receiver) (steps : List Step)
    (errors : allStoreErrors steps) :
    (answers ⟨mode, true⟩ steps (start receiver?)).map (fun a => a.1.visible false) =
      (answers ⟨mode, false⟩ steps (start receiver?)).map (fun a => a.1.visible false) :=
  answers_visible mode steps errors rfl

/-- Reads, a domain error, a block in a block and a thread, all within a traced block. -/
def nested : List Step :=
  [.write .variable ⟨34⟩,
    .traced ⟨"outer", 1⟩ "f" "done"
      [.read .variable, .traced ⟨"inner", 2⟩ "g" "done" [.ceil .nan, .read .pointer],
        .thread [.read .location, .orErrno (.error ⟨5⟩) .one], .ceilf .one],
    .read .variable]

theorem tracing_transparent_nested :
    allStoreErrors nested ∧
      (answers ⟨.ieee, true⟩ nested (start none)).map (fun a => a.1.visible false) =
        (answers ⟨.ieee, false⟩ nested (start none)).map (fun a => a.1.visible false) :=
  ⟨by decide, tracing_transparent .ieee none nested (by decide)⟩

end TracedMath.Session
