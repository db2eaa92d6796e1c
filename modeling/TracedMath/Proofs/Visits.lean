import TracedMath.Proofs.Determinacy

/-!
# The steps that a run comes to

The nested steps of a run, each with the errno of its thread before it and with its answer, read off
the program and its answers (`visitsAll`). At any depth a step answers what it would answer alone from
that errno (`visitsAll_answer`), so what holds of single steps holds throughout a run.
-/

namespace TracedMath.Session

/-- A step that a run has come to. -/
structure Visit where
  step : Step
  before : ErrorCode
  answer : Answer

mutual

/-- A step and the steps within it. A new thread starts with a clear errno, and in a build that traces
a traced block does too. -/
def Step.visits (b : Build) : Step → ErrorCode → Answer → List Visit
  | .thread steps, before, .thread answers after =>
    ⟨.thread steps, before, .thread answers after⟩ :: visitsAll b steps .success answers
  | .traced site label value steps, before, .traced returned answers after =>
    ⟨.traced site label value steps, before, .traced returned answers after⟩ ::
      visitsAll b steps (entered b before) answers
  | step, before, answer => [⟨step, before, answer⟩]

/-- Each step starts with the errno that the one before it has left. -/
def visitsAll (b : Build) : List Step → ErrorCode → List Answer → List Visit
  | step :: rest, before, answer :: answers =>
    step.visits b before answer ++ visitsAll b rest answer.errno answers
  | _, _, _ => []

end

/-- The visits of a session. -/
def visits (b : Build) (steps : List Step) (receiver? : Option Receiver) : List Visit :=
  visitsAll b steps .success ((answers b steps (start receiver?)).map Prod.fst)

mutual

theorem Step.visits_answer (b : Build) (step : Step) (e : ErrorCode) :
    ∀ v ∈ step.visits b e (step.answerFrom b e), v.answer = v.step.answerFrom b v.before := by
  cases step with
  | thread steps =>
    intro v hv
    rcases List.mem_cons.mp hv with rfl | nested
    · rfl
    · exact visitsAll_answer b steps .success v nested
  | traced site label value steps =>
    have answer := Step.answerFrom_traced b e site label value steps
    intro v hv
    rw [answer] at hv
    rcases List.mem_cons.mp hv with rfl | nested
    · exact answer.symm
    · exact visitsAll_answer b steps (entered b e) v nested
  | _ =>
    intro v hv
    obtain rfl := List.mem_singleton.mp hv
    rfl

/-- At any depth a step answers what it would answer alone from the errno before it. -/
theorem visitsAll_answer (b : Build) (steps : List Step) (e : ErrorCode) :
    ∀ v ∈ visitsAll b steps e (answersFrom b e steps), v.answer = v.step.answerFrom b v.before := by
  cases steps with
  | nil =>
    intro v none
    cases none
  | cons step rest =>
    intro v hv
    rw [answersFrom_cons, visitsAll] at hv
    rcases List.mem_append.mp hv with first | later
    · exact Step.visits_answer b step e v first
    · exact visitsAll_answer b rest _ v later

end

theorem session_visits_answer (b : Build) (steps : List Step) (receiver? : Option Receiver) :
    ∀ v ∈ visits b steps receiver?, v.answer = v.step.answerFrom b v.before := by
  rw [visits, map_fst_answers]
  exact visitsAll_answer b steps .success

end TracedMath.Session
