import TracedMath.Host
import TracedMath.Proofs.Visits

namespace TracedMath

/-- An error of the ceiling is stored, and otherwise errno stays, with and without traces. -/
theorem EntryPoint.callCeil_ne_success {F : Format} (p : EntryPoint) (b : Build) (x : Binary F)
    {c : Context} (h : c.errno ≠ .success) : (p.callCeil b x c).2.errno ≠ .success := by
  rw [callCeil_errno]
  split
  · exact h
  · assumption

namespace Session

/-- The steps that are traced calls. -/
def Step.isCall : Step → Bool
  | .ceil _ | .ceilf _ | .traced .. => true
  | _ => false

theorem Step.answerFrom_ne_success {step : Step} (call : step.isCall) (mode : Binary.Mode)
    {e : ErrorCode} (h : e ≠ .success) : (step.answerFrom ⟨mode, true⟩ e).errno ≠ .success := by
  have set : (⟨e, .initial⟩ : Context).errno ≠ .success := h
  cases step with
  | ceil x => exact EntryPoint.ceil.callCeil_ne_success ⟨mode, true⟩ x set
  | ceilf x => exact EntryPoint.ceilf.callCeil_ne_success ⟨mode, true⟩ x set
  | traced site label value steps =>
    exact traced_errno_ne_success site label (fun _ => value) (runAll ⟨mode, true⟩ steps) set
  | _ => cases call

end Session

open Session (Visit)

/-- **A traced call is isolated from its caller's errno, and never clears it.** In a build that traces
the body of a traced step decides its nested answers, the value, the records and the errno that the
body ends with. That is the errno after the step, unless it is clear: then the one from before is.
Throughout every session, and in every state of a process, an errno that is set stays set over a
traced step and over both ceiling calls. -/
theorem traced_call_isolated (mode : Binary.Mode) :
    (∀ (site : Log.Site) (label value : String) (steps : List Session.Step),
      ∃ (inside : List Session.Answer) (notes : List Log.Note),
        let e := Session.lastErrno .success inside
        ∀ (before : ErrorCode) (log : Log.Facade),
          let after := if e = .success then before else e
          (Session.Step.traced site label value steps).run ⟨mode, true⟩ ⟨before, log⟩ =
            (.traced value inside after,
              ⟨after, log.emitAll ((bracket site label value e notes).map Log.Note.record)⟩)) ∧
    (∀ (steps : List Session.Step) (receiver? : Option Session.Receiver),
      ∀ v ∈ Session.visits ⟨mode, true⟩ steps receiver?,
        v.step.isCall → v.before ≠ .success → v.answer.errno ≠ .success) ∧
    ∀ h : Host, h.context.errno ≠ .success →
      (∀ x, (h.step (.ceil x)).2.context.errno ≠ .success) ∧
        ∀ x, (h.step (.ceilf x)).2.context.errno ≠ .success := by
  refine ⟨?_, ?_, ?_⟩
  · intro site label value steps
    obtain ⟨notes, ran⟩ := Session.runAll_eq ⟨mode, true⟩ .success steps
    refine ⟨Session.answersFrom ⟨mode, true⟩ .success steps, notes, ?_⟩
    intro e before log after
    have whole := traced_eq site label (fun _ => value) ran ⟨before, log⟩
    simp only [Session.Step.run]
    rw [whole]
  · intro steps receiver? v hv call set
    rw [Session.session_visits_answer ⟨mode, true⟩ steps receiver? v hv]
    exact Session.Step.answerFrom_ne_success call mode set
  · intro h set
    constructor
    · intro x
      exact EntryPoint.ceil.callCeil_ne_success .standard x set
    · intro x
      exact EntryPoint.ceilf.callCeil_ne_success .standard x set

/-- A block that clears errno by hand within one that has stored an error: the inner one puts the error
back, and the outer one keeps it. A NaN in a new thread does not touch either. -/
theorem traced_call_isolated_cleared_by_hand :
    let inner : Visit :=
      ⟨.traced ⟨"m", 2⟩ "g" "8" [.read .location, .write .location .success], ⟨5⟩,
        .traced "8" [.value (.code .success) .success, .value .nothing .success] ⟨5⟩⟩
    let steps : List Session.Step :=
      [.write .variable ⟨34⟩,
        .traced ⟨"m", 1⟩ "f" "7" [.write .pointer ⟨5⟩, inner.step, .thread [.ceil .nan]]]
    (inner ∈ Session.visits ⟨.ieee, true⟩ steps none ∧ inner.step.isCall ∧
      inner.before ≠ .success ∧ inner.answer.errno ≠ .success) ∧
    (Host.initial.step (.setErrno ⟨34⟩)).2.context.errno ≠ .success ∧
      ((Host.initial.step (.setErrno ⟨34⟩)).2.step (.ceil .nan)).2.context.errno ≠ .success := by
  intro inner steps
  obtain ⟨-, throughout, process⟩ := traced_call_isolated .ieee
  have visited : inner ∈ Session.visits ⟨.ieee, true⟩ steps none :=
    List.mem_of_getElem? (i := 3) rfl
  have set : inner.before ≠ .success := by decide
  have held : (Host.initial.step (.setErrno ⟨34⟩)).2.context.errno ≠ .success := by decide
  exact ⟨⟨visited, rfl, set, throughout steps none inner visited rfl set⟩, held,
    (process _ held).1 .nan⟩

end TracedMath
