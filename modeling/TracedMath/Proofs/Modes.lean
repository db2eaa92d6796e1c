import TracedMath.Proofs.Ceiling
import TracedMath.Proofs.Visits

namespace TracedMath

variable {F : Format}

namespace EntryPoint

/-- An argument outside the domain is returned as it is, and the unchecked way does the same to it. -/
theorem returned_eq (mode : Binary.Mode) (x : Binary F) : returned mode x = Binary.bump x.split := by
  cases number : x.isNaN with
  | false =>
    rw [returned, Binary.ceilWith_of_not_isNaN number]
    rfl
  | true =>
    cases mode with
    | lenient => rfl
    | ieee =>
      have refused := (Binary.ceilWith_eq_error_iff .ieee x .domain).mpr ⟨rfl, number, rfl⟩
      have infinite : ¬x.isFinite := by simp [Binary.isFinite_eq, number]
      rw [returned, refused, Binary.bump_of_not_isFinite infinite]
      rfl

theorem callCeil_bump (p : EntryPoint) (b : Build) (x : Binary F) (c : Context) :
    (p.callCeil b x c).1 = Binary.bump x.split :=
  (p.callCeil_value b x c).trans (returned_eq b.mode x)

theorem callCeil_mode (p : EntryPoint) (tracing : Bool) (mode other : Binary.Mode) {x : Binary F}
    (number : x.isNaN = false) : p.callCeil ⟨mode, tracing⟩ x = p.callCeil ⟨other, tracing⟩ x := by
  simp only [callCeil, Binary.ceilWith_of_not_isNaN number]

end EntryPoint

namespace Session

mutual

/-- Neither this step nor a step within it takes the ceiling of a NaN. -/
def Step.numeric : Step → Bool
  | .ceil x => !x.isNaN
  | .ceilf x => !x.isNaN
  | .ceilResult x => !x.isNaN
  | .thread steps => allNumeric steps
  | .traced _ _ _ steps => allNumeric steps
  | _ => true

def allNumeric : List Step → Bool
  | [] => true
  | step :: rest => step.numeric && allNumeric rest

end

variable (tracing : Bool) (mode other : Binary.Mode)

mutual

theorem Step.run_mode (step : Step) (numbers : step.numeric) :
    step.run ⟨mode, tracing⟩ = step.run ⟨other, tracing⟩ := by
  cases step with
  | ceil x =>
    have same := EntryPoint.ceil.callCeil_mode tracing mode other ((Bool.not_eq_true' _).mp numbers)
    funext c
    simp only [Step.run, TracedMath.ceil, same]
  | ceilf x =>
    have same := EntryPoint.ceilf.callCeil_mode tracing mode other ((Bool.not_eq_true' _).mp numbers)
    funext c
    simp only [Step.run, TracedMath.ceilf, same]
  | ceilResult x =>
    have number := (Bool.not_eq_true' _).mp numbers
    funext c
    simp only [Step.run, Binary.ceilWith_of_not_isNaN number]
  | thread steps =>
    funext c
    simp only [Step.run, runAll_mode steps numbers]
  | traced site label value steps =>
    funext c
    simp only [Step.run, runAll_mode steps numbers]
  | read | write | modf | modff | orErrno => rfl

theorem runAll_mode (steps : List Step) (numbers : allNumeric steps) :
    runAll ⟨mode, tracing⟩ steps = runAll ⟨other, tracing⟩ steps := by
  cases steps with
  | nil => rfl
  | cons step rest =>
    simp only [allNumeric, Bool.and_eq_true] at numbers
    funext c
    simp only [runAll, Step.run_mode step numbers.1, runAll_mode rest numbers.2]

end

theorem answers_mode (steps : List Step) (numbers : allNumeric steps) (c : Context) :
    answers ⟨mode, tracing⟩ steps c = answers ⟨other, tracing⟩ steps c := by
  induction steps generalizing c with
  | nil => rfl
  | cons step rest ih =>
    simp only [allNumeric, Bool.and_eq_true] at numbers
    simp only [answers, Step.run_mode tracing mode other step numbers.1, ih numbers.2]

/-- What a visited step has returned, if it is one of the two ceiling calls. -/
def Visit.ceiling? (v : Visit) : Option Value :=
  match v.step, v.answer with
  | .ceil _, .value y _ => some y
  | .ceilf _, .value y _ => some y
  | _, _ => none

/-- What the ceiling calls of a session return, nested ones included, in the order of the program. -/
def ceilings (b : Build) (steps : List Step) (receiver? : Option Receiver) : List Value :=
  (visits b steps receiver?).filterMap Visit.ceiling?

mutual

theorem Step.ceilings_eq (one other : Build) (step : Step) (d e : ErrorCode) :
    (step.visits one d (step.answerFrom one d)).filterMap Visit.ceiling? =
      (step.visits other e (step.answerFrom other e)).filterMap Visit.ceiling? := by
  cases step with
  | ceil x =>
    have here := EntryPoint.ceil.callCeil_bump one x ⟨d, .initial⟩
    have there := EntryPoint.ceil.callCeil_bump other x ⟨e, .initial⟩
    exact congrArg (fun y => [Value.double y]) (here.trans there.symm)
  | ceilf x =>
    have here := EntryPoint.ceilf.callCeil_bump one x ⟨d, .initial⟩
    have there := EntryPoint.ceilf.callCeil_bump other x ⟨e, .initial⟩
    exact congrArg (fun y => [Value.single y]) (here.trans there.symm)
  | thread steps => exact allCeilings_eq one other steps .success .success
  | traced site label value steps =>
    rw [Step.answerFrom_traced, Step.answerFrom_traced]
    exact allCeilings_eq one other steps (entered one d) (entered other e)
  | read | write | modf | modff | ceilResult | orErrno => rfl

theorem allCeilings_eq (one other : Build) (steps : List Step) (d e : ErrorCode) :
    (visitsAll one steps d (answersFrom one d steps)).filterMap Visit.ceiling? =
      (visitsAll other steps e (answersFrom other e steps)).filterMap Visit.ceiling? := by
  cases steps with
  | nil => rfl
  | cons step rest =>
    rw [answersFrom_cons, answersFrom_cons, visitsAll, visitsAll, List.filterMap_append,
      List.filterMap_append, Step.ceilings_eq one other step d e,
      allCeilings_eq one other rest (step.answerFrom one d).errno (step.answerFrom other e).errno]

end

/-- **The two modes differ on NaNs alone.** If a session takes the ceiling of no NaN, its answers and
its texts are the same in both modes, with and without traces. In any case the ceiling calls of a
session return the same numbers bit for bit, NaNs too, in any two builds. -/
theorem modes_differ_on_nan (steps : List Step) (receiver? : Option Receiver) :
    (allNumeric steps → ∀ tracing,
      answers ⟨.ieee, tracing⟩ steps (start receiver?) =
        answers ⟨.lenient, tracing⟩ steps (start receiver?)) ∧
    ∀ one other : Build, ceilings one steps receiver? = ceilings other steps receiver? := by
  constructor
  · intro numbers tracing
    exact answers_mode tracing .ieee .lenient steps numbers (start receiver?)
  · intro one other
    simp only [ceilings, visits, map_fst_answers]
    exact allCeilings_eq one other steps .success .success

/-- Infinities and fractions at all depths, for which no mode matters, and a NaN in a thread, which all
builds return. -/
theorem modes_differ_on_nan_infinities :
    let steps : List Step :=
      [.ceil (.infinity true), .ceilResult (.infinity false),
        .traced ⟨"m", 1⟩ "f" "7" [.ceilf .one, .thread [.ceil .one, .write .pointer ⟨5⟩]]]
    let receiver : Receiver := ⟨.upTo .trace, some "p", none⟩
    allNumeric steps ∧
      answers ⟨.ieee, true⟩ steps (start (some receiver)) =
        answers ⟨.lenient, true⟩ steps (start (some receiver)) ∧
      ceilings ⟨.ieee, true⟩ [.thread [.ceil .nan]] none =
        ceilings ⟨.lenient, false⟩ [.thread [.ceil .nan]] none := by
  intro steps receiver
  have numbers : allNumeric steps := by decide
  exact ⟨numbers, (modes_differ_on_nan steps (some receiver)).1 numbers true,
    (modes_differ_on_nan [.thread [.ceil .nan]] none).2 ⟨.ieee, true⟩ ⟨.lenient, false⟩⟩

end Session

end TracedMath
