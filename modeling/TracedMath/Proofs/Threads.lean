import TracedMath.Proofs.Cells
import TracedMath.Proofs.Visits

namespace TracedMath.Session

/-- A program with one thread, at any depth, whose steps are left open. -/
inductive Frame where
  | here (before after : List Step)
  | inThread (before : List Step) (frame : Frame) (after : List Step)
  | inTraced (before : List Step) (site : Log.Site) (label value : String) (frame : Frame)
      (after : List Step)

/-- The program with these steps in the open thread. -/
def Frame.fill (body : List Step) : Frame → List Step
  | here before after => before ++ .thread body :: after
  | inThread before frame after => before ++ .thread (frame.fill body) :: after
  | inTraced before site label value frame after =>
    before ++ .traced site label value (frame.fill body) :: after

/-- Answers with one list of a thread's answers left open. -/
inductive AnswerFrame where
  | here (before : List Answer) (errno : ErrorCode) (after : List Answer)
  | inThread (before : List Answer) (frame : AnswerFrame) (errno : ErrorCode) (after : List Answer)
  | inTraced (before : List Answer) (value : String) (frame : AnswerFrame) (errno : ErrorCode)
      (after : List Answer)

def AnswerFrame.fill (inside : List Answer) : AnswerFrame → List Answer
  | here before errno after => before ++ .thread inside errno :: after
  | inThread before frame errno after => before ++ .thread (frame.fill inside) errno :: after
  | inTraced before value frame errno after =>
    before ++ .traced value (frame.fill inside) errno :: after

/-- The answers are left open where the steps are. -/
def AnswerFrame.Fits : AnswerFrame → Frame → Prop
  | here xs _ ys, .here before after => xs.length = before.length ∧ ys.length = after.length
  | inThread xs around _ ys, .inThread before frame after =>
    xs.length = before.length ∧ around.Fits frame ∧ ys.length = after.length
  | inTraced xs returned around _ ys, .inTraced before _ _ value frame after =>
    xs.length = before.length ∧ returned = value ∧ around.Fits frame ∧ ys.length = after.length
  | _, _ => False

theorem lastErrno_append_cons (e : ErrorCode) (xs : List Answer) (a : Answer) (ys : List Answer) :
    lastErrno e (xs ++ a :: ys) = lastErrno a.errno ys := by
  induction xs generalizing e with
  | nil => rfl
  | cons x rest ih => exact ih x.errno

/-- The errno at the end of a program does not depend on the answers of a thread. -/
theorem AnswerFrame.lastErrno_fill (around : AnswerFrame) (d e : ErrorCode)
    (inside others : List Answer) :
    lastErrno d (around.fill inside) = lastErrno e (around.fill others) := by
  cases around with
  | here | inThread | inTraced => simp only [fill, lastErrno_append_cons, Answer.errno]

variable (b : Build)

theorem length_answersFrom (e : ErrorCode) (steps : List Step) :
    (answersFrom b e steps).length = steps.length := by
  induction steps generalizing e with
  | nil => rfl
  | cons step rest ih => rw [answersFrom_cons, List.length_cons, List.length_cons, ih]

/-- What an open thread is filled with shows in its own answers, which are those of a program that
starts with a clear errno, and nowhere else. -/
theorem answersFrom_fill (frame : Frame) (e : ErrorCode) :
    ∃ around : AnswerFrame, around.Fits frame ∧ ∀ body,
      answersFrom b e (frame.fill body) = around.fill (answersFrom b .success body) := by
  induction frame generalizing e with
  | here before after =>
    let mid := lastErrno e (answersFrom b e before)
    refine ⟨.here (answersFrom b e before) mid (answersFrom b mid after), ?_, ?_⟩
    · exact ⟨length_answersFrom b _ _, length_answersFrom b _ _⟩
    · intro body
      rw [Frame.fill, answersFrom_append, answersFrom_cons, Step.answerFrom_thread]
      rfl
  | inThread before frame after ih =>
    let mid := lastErrno e (answersFrom b e before)
    obtain ⟨around, fits, filled⟩ := ih .success
    refine ⟨.inThread (answersFrom b e before) around mid (answersFrom b mid after), ?_, ?_⟩
    · exact ⟨length_answersFrom b _ _, fits, length_answersFrom b _ _⟩
    · intro body
      rw [Frame.fill, answersFrom_append, answersFrom_cons, Step.answerFrom_thread, filled]
      rfl
  | inTraced before site label value frame after ih =>
    let mid := lastErrno e (answersFrom b e before)
    obtain ⟨around, fits, filled⟩ := ih (entered b mid)
    let left := restored b mid (lastErrno (entered b mid) (around.fill []))
    refine ⟨.inTraced (answersFrom b e before) value around left (answersFrom b left after), ?_, ?_⟩
    · exact ⟨length_answersFrom b _ _, rfl, fits, length_answersFrom b _ _⟩
    · intro body
      rw [Frame.fill, answersFrom_append, answersFrom_cons, Step.answerFrom_traced, filled,
        around.lastErrno_fill _ (entered b mid) _ []]
      rfl

mutual

/-- The step with every access to errno made through its variable. -/
def Step.direct : Step → Step
  | .read _ => .read .variable
  | .write _ e => .write .variable e
  | .thread steps => .thread (allDirect steps)
  | .traced site label value steps => .traced site label value (allDirect steps)
  | step => step

def allDirect : List Step → List Step
  | [] => []
  | step :: rest => step.direct :: allDirect rest

end

mutual

theorem Step.run_direct (step : Step) : step.direct.run b = step.run b := by
  cases step with
  | thread steps =>
    funext c
    simp only [Step.direct, Step.run, runAll_direct steps]
  | traced site label value steps =>
    funext c
    simp only [Step.direct, Step.run, runAll_direct steps]
  | _ => rfl

theorem runAll_direct (steps : List Step) : runAll b (allDirect steps) = runAll b steps := by
  cases steps with
  | nil => rfl
  | cons step rest =>
    funext c
    simp only [allDirect, runAll, Step.run_direct step, runAll_direct rest]

end

theorem answers_direct (steps : List Step) (c : Context) :
    answers b (allDirect steps) c = answers b steps c := by
  induction steps generalizing c with
  | nil => rfl
  | cons step rest ih => simp only [allDirect, answers, Step.run_direct, ih]

/-- What a session answers that nothing is logged for. -/
def alone (steps : List Step) : List Answer := (answers b steps (start none)).map Prod.fst

theorem alone_eq (steps : List Step) : alone b steps = answersFrom b .success steps :=
  map_fst_answers b steps (start none)

/-- **Every thread has an errno of its own, in one cell.** A thread of a session, at any depth, answers
as if its steps were a session alone, so it starts with a clear errno, and the errno of the thread that
waits for it stays. The answers around a thread are the same whatever its steps are. Programs that
differ in nothing but the ways they take to errno have the same answers and texts. And with the errnos
of all threads in one memory a session answers the same, and a step keeps the cells of the threads that
it does not run on. -/
theorem errno_is_per_thread :
    (∀ steps receiver?, ∀ v ∈ visits b steps receiver?, ∀ body, v.step = .thread body →
      v.answer = .thread (alone b body) v.before) ∧
    (∀ via rest, ∃ more, alone b (.read via :: rest) = .value (.code .success) .success :: more) ∧
    (∀ frame : Frame, ∃ around : AnswerFrame, around.Fits frame ∧ ∀ receiver? body,
      (answers b (frame.fill body) (start receiver?)).map Prod.fst = around.fill (alone b body)) ∧
    (∀ steps others, allDirect steps = allDirect others → ∀ receiver?,
      answers b steps (start receiver?) = answers b others (start receiver?)) ∧
    (∀ steps receiver?, (runAllAt b 0 steps (Memory.start receiver?)).1 =
      (answers b steps (start receiver?)).map Prod.fst) ∧
    ∀ (step : Step) (m : Memory), ∀ t < m.cells.length, ∀ u < m.cells.length, u ≠ t →
      (step.runAt b t m).2.load u = m.load u := by
  refine ⟨?_, ?_, ?_, ?_, ?_, ?_⟩
  · intro steps receiver? v hv body thread
    rw [session_visits_answer b steps receiver? v hv, thread, Step.answerFrom_thread, alone_eq]
  · intro via rest
    rw [alone_eq, answersFrom_cons]
    exact ⟨_, rfl⟩
  · intro frame
    obtain ⟨around, fits, filled⟩ := answersFrom_fill b frame .success
    refine ⟨around, fits, ?_⟩
    intro receiver? body
    rw [map_fst_answers, alone_eq]
    exact filled body
  · intro steps others same receiver?
    rw [← answers_direct b steps, same, answers_direct]
  · intro steps receiver?
    rw [runAllAt_start, runAll_answers, map_fst_answers]
  · intro step m t ht u hu other
    exact step.load_runAt b ht hu other

/-- A thread that is started within a traced block, after the block has stored an error, and that ends
with another error. With all accesses made in other ways the session answers the same. Run on the second
of two threads, the block keeps the errno of the first. -/
theorem errno_is_per_thread_in_traced_block :
    let body : List Step := [.read .location, .ceil .nan, .read .variable]
    let steps : List Step :=
      [.traced ⟨"m", 1⟩ "f" "7" [.write .pointer ⟨5⟩, .thread body, .read .pointer]]
    let others : List Step :=
      [.traced ⟨"m", 1⟩ "f" "7" [.write .location ⟨5⟩,
        .thread [.read .pointer, .ceil .nan, .read .location], .read .variable]]
    let visit : Visit := ⟨.thread body, ⟨5⟩,
      .thread [.value (.code .success) .success, .value (.double .nan) .domain,
        .value (.code .domain) .domain] ⟨5⟩⟩
    (visit ∈ visits .standard steps none ∧ visit.answer = .thread (alone .standard body) ⟨5⟩) ∧
    (allDirect steps = allDirect others ∧
      answers .standard steps (start none) = answers .standard others (start none)) ∧
    ∀ step ∈ steps, (step.runAt .standard 1 ⟨[⟨34⟩, .success], .initial⟩).2.load 0 = ⟨34⟩ := by
  intro body steps others visit
  obtain ⟨threads, -, -, ways, -, cells⟩ := errno_is_per_thread .standard
  have visited : visit ∈ visits .standard steps none := List.mem_of_getElem? (i := 2) rfl
  have same : allDirect steps = allDirect others := rfl
  refine ⟨⟨visited, threads steps none visit visited body rfl⟩,
    ⟨same, ways steps others same none⟩, ?_⟩
  intro step _
  exact cells step ⟨[⟨34⟩, .success], .initial⟩ 1 (by decide) 0 (by decide) (by decide)

end TracedMath.Session
