import TracedMath.Proofs.TraceLog

/-!
# Errno decides what a step does

From the errno that its thread has before it, a step has one answer and makes one list of records,
whatever the log is (`Step.run_determined`). The log takes the records and gives nothing back. So the
answers of a program follow from an errno alone (`answersFrom`).
-/

namespace TracedMath

open Log (Note)

variable {body : Context → α × Context}

/-- The errno that such a body starts with decides what it returns, the errno that it leaves and the
records that it makes. -/
def Determined (body : Context → α × Context) : Prop :=
  ∀ e, ∃ (a : α) (after : ErrorCode) (notes : List Note), ∀ log : Log.Facade,
    body ⟨e, log⟩ = (a, ⟨after, log.emitAll (notes.map Note.record)⟩)

theorem Determined.of_errno (h : Determined body) {c d : Context} (same : c.errno = d.errno) :
    (body c).1 = (body d).1 ∧ (body c).2.errno = (body d).2.errno := by
  obtain ⟨a, after, notes, run⟩ := h c.errno
  have one : body c = (a, ⟨after, c.log.emitAll (notes.map Note.record)⟩) := run c.log
  have other : body d = (a, ⟨after, d.log.emitAll (notes.map Note.record)⟩) := by
    rw [← run, same]
  rw [one, other]
  exact ⟨rfl, rfl⟩

theorem orErrno_determined (result : Except ErrorCode α) (fallback : α) :
    Determined fun c => c.orErrno result fallback := by
  intro e
  cases result with
  | ok a => exact ⟨a, e, [], fun _ => rfl⟩
  | error code => exact ⟨fallback, code, [], fun _ => rfl⟩

/-- A traced call knows its caller's errno by what it puts back. -/
theorem traced_eq (site : Log.Site) (label : String) (text : α → String) {a : α} {e : ErrorCode}
    {notes : List Note}
    (inside : ∀ log, body ⟨.success, log⟩ = (a, ⟨e, log.emitAll (notes.map Note.record)⟩))
    (c : Context) :
    traced true site label text body c =
      (a, ⟨if e = .success then c.errno else e,
        c.log.emitAll ((bracket site label (text a) e notes).map Note.record)⟩) := by
  have ran := inside (c.trace site label).log
  have result : (traced true site label text body c).1 = a := by
    rw [traced_result, ran]
  have errno : (traced true site label text body c).2.errno =
      if e = .success then c.errno else e := by
    rw [traced_errno, ran]
  have log := traced_log site label text body c notes (by rw [ran])
  simp only [ran] at log
  exact Prod.ext result (by rw [← errno, ← log])

theorem Determined.traced (h : Determined body) (tracing : Bool) (site : Log.Site) (label : String)
    (text : α → String) : Determined (traced tracing site label text body) := by
  intro e
  cases tracing with
  | false => exact h e
  | true =>
    obtain ⟨a, after, notes, inside⟩ := h .success
    refine ⟨a, if after = .success then e else after, bracket site label (text a) after notes, ?_⟩
    intro log
    exact traced_eq site label text inside ⟨e, log⟩

theorem EntryPoint.callCeil_determined {F : Format} (p : EntryPoint) (b : Build) (x : Binary F) :
    Determined (p.callCeil b x) :=
  (orErrno_determined _ _).traced b.tracing p.site (p.label x) Binary.text

namespace Session

theorem finish_determined (h : Determined body) (value : α → Value) :
    Determined fun c => finish (value (body c).1) (body c).2 := by
  intro e
  obtain ⟨a, after, notes, run⟩ := h e
  refine ⟨.value (value a) after, after, notes, ?_⟩
  intro log
  simp only [run]
  rfl

mutual

theorem Step.run_determined (b : Build) (step : Step) : Determined (step.run b) := by
  cases step with
  | read via => exact fun e => ⟨.value (.code e) e, e, [], fun _ => rfl⟩
  | write via code => exact fun _ => ⟨.value .nothing code, code, [], fun _ => rfl⟩
  | modf x => exact fun e => ⟨.value (.doubleParts x.split) e, e, [], fun _ => rfl⟩
  | modff x => exact fun e => ⟨.value (.singleParts x.split) e, e, [], fun _ => rfl⟩
  | ceilResult x => exact fun e => ⟨.value (.result (x.ceilWith b.mode)) e, e, [], fun _ => rfl⟩
  | ceil x => exact finish_determined (EntryPoint.ceil.callCeil_determined b x) .double
  | ceilf x => exact finish_determined (EntryPoint.ceilf.callCeil_determined b x) .single
  | orErrno result fallback => exact finish_determined (orErrno_determined result fallback) .double
  | thread steps =>
    intro e
    -- whatever `e` is the thread starts with a clear errno, and `e` is put back after it
    obtain ⟨answers, after, notes, run⟩ := runAll_determined b steps .success
    refine ⟨.thread answers e, e, notes, ?_⟩
    intro log
    simp only [Step.run]
    rw [run]
  | traced site label value steps =>
    intro e
    obtain ⟨answers, after, notes, run⟩ :=
      (runAll_determined b steps).traced b.tracing site label (fun _ => value) e
    refine ⟨.traced value answers after, after, notes, ?_⟩
    intro log
    simp only [Step.run]
    rw [run]

theorem runAll_determined (b : Build) (steps : List Step) : Determined (runAll b steps) := by
  cases steps with
  | nil => exact fun e => ⟨[], e, [], fun _ => rfl⟩
  | cons step rest =>
    intro e
    obtain ⟨answer, mid, notes, run⟩ := Step.run_determined b step e
    obtain ⟨answers, after, more, runs⟩ := runAll_determined b rest mid
    refine ⟨answer :: answers, after, notes ++ more, ?_⟩
    intro log
    simp only [runAll]
    rw [run, runs, List.map_append, Log.Facade.emitAll_append]

end

/-- The answer of a step on a thread with the errno `e`. -/
def Step.answerFrom (b : Build) (e : ErrorCode) (step : Step) : Answer :=
  (step.run b ⟨e, .initial⟩).1

/-- The answers of a program on a thread with the errno `e`. -/
def answersFrom (b : Build) (e : ErrorCode) (steps : List Step) : List Answer :=
  (runAll b steps ⟨e, .initial⟩).1

variable (b : Build) (e : ErrorCode)

theorem Step.run_answer (step : Step) (c : Context) :
    (step.run b c).1 = step.answerFrom b c.errno :=
  ((Step.run_determined b step).of_errno (c := c) (d := ⟨c.errno, .initial⟩) rfl).1

theorem runAll_answers (steps : List Step) (c : Context) :
    (runAll b steps c).1 = answersFrom b c.errno steps :=
  ((runAll_determined b steps).of_errno (c := c) (d := ⟨c.errno, .initial⟩) rfl).1

/-- A program leaves the errno of its last answer, and has its records made. -/
theorem runAll_eq (steps : List Step) :
    ∃ notes : List Note, ∀ log : Log.Facade,
      runAll b steps ⟨e, log⟩ =
        (answersFrom b e steps, ⟨lastErrno e (answersFrom b e steps),
          log.emitAll (notes.map Note.record)⟩) := by
  obtain ⟨answers, after, notes, run⟩ := runAll_determined b steps e
  have same : answers = answersFrom b e steps := (congrArg Prod.fst (run .initial)).symm
  have last : after = lastErrno e answers := by
    have errno := runAll_errno b steps ⟨e, .initial⟩
    rw [run] at errno
    exact errno
  rw [last, same] at run
  exact ⟨notes, run⟩

theorem answersFrom_cons (step : Step) (rest : List Step) :
    answersFrom b e (step :: rest) =
      step.answerFrom b e :: answersFrom b (step.answerFrom b e).errno rest := by
  have others := runAll_answers b rest (step.run b ⟨e, .initial⟩).2
  rw [Step.run_errno] at others
  exact congrArg (List.cons _) others

theorem answersFrom_append (steps rest : List Step) :
    answersFrom b e (steps ++ rest) =
      answersFrom b e steps ++ answersFrom b (lastErrno e (answersFrom b e steps)) rest := by
  induction steps generalizing e with
  | nil => rfl
  | cons step more ih =>
    rw [List.cons_append, answersFrom_cons, ih, answersFrom_cons]
    rfl

/-- A new thread starts with a clear errno, and the thread that waits for it has its own one back. -/
theorem Step.answerFrom_thread (steps : List Step) :
    (Step.thread steps).answerFrom b e = .thread (answersFrom b .success steps) e := rfl

/-- The errno that a traced block starts with, if it is `e` outside. -/
def entered (b : Build) (e : ErrorCode) : ErrorCode := if b.tracing then .success else e

/-- The errno after a traced block that ends with `inner`, if it was `e` before. -/
def restored (b : Build) (e inner : ErrorCode) : ErrorCode :=
  if b.tracing then if inner = .success then e else inner else inner

theorem Step.answerFrom_traced (site : Log.Site) (label value : String) (steps : List Step) :
    (Step.traced site label value steps).answerFrom b e =
      .traced value (answersFrom b (entered b e) steps)
        (restored b e (lastErrno (entered b e) (answersFrom b (entered b e) steps))) := by
  have last := runAll_errno b steps ⟨entered b e, .initial⟩
  have left := congrArg (restored b e) last
  obtain ⟨mode, tracing⟩ := b
  cases tracing with
  | false => exact congrArg (Answer.traced value _) left
  | true => exact congrArg (Answer.traced value _) left

/-- What a session answers, its texts apart. -/
theorem map_fst_answers (steps : List Step) (c : Context) :
    (answers b steps c).map Prod.fst = answersFrom b c.errno steps := by
  induction steps generalizing c with
  | nil => rfl
  | cons step rest ih =>
    have first := Step.run_answer b step { c with log.sinks := c.log.sinks.drain }
    have others := ih (step.run b { c with log.sinks := c.log.sinks.drain }).2
    rw [Step.run_errno, first] at others
    rw [answersFrom_cons]
    exact List.cons_eq_cons.mpr ⟨first, others⟩

end Session

end TracedMath
