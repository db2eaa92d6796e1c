import TracedMath.Session

/-!
# One memory for the errno of all threads

A session gives each thread an errno that no other thread can reach. Here the errno of every thread is
a cell of one memory, and each access goes to an address (`runAllAt`). It comes to the same
(`runAllAt_eq`): a thread changes its own cell, adds those of the threads that it starts, and touches
no other.
-/

namespace TracedMath.Session

/-- The cells of the threads started so far, each at the number of its thread, and the log of all. -/
structure Memory where
  cells : List ErrorCode
  log : Log.Facade
  deriving DecidableEq, Repr

namespace Memory

def load (m : Memory) (address : Nat) : ErrorCode := m.cells.getD address .success

def store (m : Memory) (address : Nat) (e : ErrorCode) : Memory :=
  { m with cells := m.cells.set address e }

/-- A new cell is clear. Its address is the number of the cells before it. -/
def allocate (m : Memory) : Memory := { m with cells := m.cells ++ [.success] }

/-- Before a session there is one thread. -/
def start (receiver? : Option Receiver) : Memory := ⟨[.success], (Session.start receiver?).log⟩

/-- What a call on a thread can see. -/
def context (m : Memory) (thread : Nat) : Context := ⟨m.load thread, m.log⟩

/-- Puts back what a call on a thread has changed. -/
def put (m : Memory) (thread : Nat) (c : Context) : Memory :=
  { m.store thread c.errno with log := c.log }

def trace (m : Memory) (site : Log.Site) (message : String) : Memory :=
  { m with log := (m.log.emit (site.record .trace message)).2 }

end Memory

/-- The address of a thread's errno, as its variable gives it out. -/
def errnoPointer (thread : Nat) : Nat := thread

/-- The address of a thread's errno, as the location function gives it out. -/
def errnoLocation (thread : Nat) : Nat := errnoPointer thread

/-- The address that an access goes to. -/
def Access.address (thread : Nat) : Access → Nat
  | .variable => thread
  | .pointer => errnoPointer thread
  | .location => errnoLocation thread

mutual

/-- Runs a step on a thread. A thread that is started gets the next free cell, and calls see no cell
but that of their thread. -/
def Step.runAt (b : Build) (thread : Nat) : Step → Memory → Answer × Memory
  | .read via, m => (.value (.code (m.load (via.address thread))) (m.load thread), m)
  | .write via e, m =>
    let m := m.store (via.address thread) e
    (.value .nothing (m.load thread), m)
  | .thread steps, m =>
    let (answers, m) := runAllAt b m.cells.length steps m.allocate
    (.thread answers (m.load thread), m)
  | .traced site label value steps, m =>
    if b.tracing then
      let (answers, inner) := runAllAt b thread steps ((m.trace site label).store thread .success)
      let e := inner.load thread
      let outer := if e = .success then inner.store thread (m.load thread) else inner
      (.traced value answers (outer.load thread), outer.trace site (closingMessage label value e))
    else
      let (answers, m) := runAllAt b thread steps m
      (.traced value answers (m.load thread), m)
  | step, m =>
    let (answer, c) := step.run b (m.context thread)
    (answer, m.put thread c)

def runAllAt (b : Build) (thread : Nat) : List Step → Memory → List Answer × Memory
  | [], m => ([], m)
  | step :: rest, m =>
    let (answer, m) := step.runAt b thread m
    let (answers, m) := runAllAt b thread rest m
    (answer :: answers, m)

end

namespace Memory

/-- The memory once a thread has come to `c`, after it has started threads that have left these cells. -/
def after (m : Memory) (thread : Nat) (c : Context) (started : List ErrorCode) : Memory :=
  ⟨m.cells.set thread c.errno ++ started, c.log⟩

variable {m : Memory} {t : Nat}

theorem after_context (h : t < m.cells.length) : m.after t (m.context t) [] = m := by
  simp [after, context, load, h]

theorem put_eq (m : Memory) (t : Nat) (c : Context) : m.put t c = m.after t c [] := by
  simp [put, store, after]

theorem length_le_after (m : Memory) (t : Nat) (c : Context) (started : List ErrorCode) :
    m.cells.length ≤ (m.after t c started).cells.length := by
  simp [after]

/-- Of the cells that there were, the thread's own is the one that can differ. -/
theorem load_after_eq {u : Nat} (h : u < m.cells.length) (c : Context) (started : List ErrorCode) :
    (m.after t c started).load u = if u = t then c.errno else m.load u := by
  have inside : u < (m.cells.set t c.errno).length := by simpa using h
  have kept : (m.after t c started).load u = (m.cells.set t c.errno).getD u .success := by
    simp [after, load, List.getElem?_append_left inside]
  rw [kept]
  by_cases own : u = t
  · subst own
    simp [h]
  · simp [load, own, Ne.symm own]

theorem load_after (h : t < m.cells.length) (c : Context) (started : List ErrorCode) :
    (m.after t c started).load t = c.errno := by
  rw [load_after_eq h, if_pos rfl]

theorem context_after (h : t < m.cells.length) (c : Context) (started : List ErrorCode) :
    (m.after t c started).context t = c := by
  rw [context, load_after h]
  rfl

theorem after_after (h : t < m.cells.length) (c d : Context) (started more : List ErrorCode) :
    (m.after t c started).after t d more = m.after t d (started ++ more) := by
  have inside : t < (m.cells.set t c.errno).length := by simpa using h
  simp [after, List.set_append_left _ _ inside]

theorem store_eq (m : Memory) (t : Nat) (e : ErrorCode) : m.store t e = m.after t ⟨e, m.log⟩ [] := by
  simp [store, after]

theorem store_after (h : t < m.cells.length) (c : Context) (started : List ErrorCode)
    (e : ErrorCode) : (m.after t c started).store t e = m.after t { c with errno := e } started := by
  rw [store_eq, after_after h, List.append_nil]
  rfl

/-- The end of a traced block, in the memory and on the thread. -/
theorem restore_after (h : t < m.cells.length) (c : Context) (started : List ErrorCode)
    (before : ErrorCode) :
    (if c.errno = .success then (m.after t c started).store t before else m.after t c started) =
      m.after t { c with errno := if c.errno = .success then before else c.errno } started := by
  split
  · exact store_after h c started before
  · rfl

theorem context_allocate (m : Memory) :
    m.allocate.context m.cells.length = ⟨.success, m.log⟩ := by
  simp [allocate, context, load]

/-- A thread that is started leaves the cell of the one that waits for it as it was. -/
theorem after_allocate (h : t < m.cells.length) (c : Context) (started : List ErrorCode) :
    m.allocate.after m.cells.length c started =
      m.after t { c with errno := m.load t } (c.errno :: started) := by
  simp [after, allocate, load, h, List.set_append_right]

end Memory

theorem Access.address_eq (thread : Nat) (via : Access) : via.address thread = thread := by
  cases via <;> rfl

mutual

/-- A step does to its thread what it does to a context, and adds the cells of the threads that it
starts. -/
theorem Step.runAt_eq (b : Build) (step : Step) {t : Nat} {m : Memory} (h : t < m.cells.length) :
    ∃ started, step.runAt b t m =
      ((step.run b (m.context t)).1, m.after t (step.run b (m.context t)).2 started) := by
  cases step with
  | read via =>
    refine ⟨[], ?_⟩
    simp only [Step.runAt, Access.address_eq]
    exact Prod.ext rfl (Memory.after_context h).symm
  | write via e =>
    refine ⟨[], ?_⟩
    simp only [Step.runAt, Access.address_eq, Memory.store_eq, Memory.load_after h]
    rfl
  | thread steps =>
    have started_here : m.cells.length < m.allocate.cells.length := by simp [Memory.allocate]
    obtain ⟨started, ran⟩ := runAllAt_eq b steps started_here
    rw [Memory.context_allocate, Memory.after_allocate h] at ran
    refine ⟨(runAll b steps ⟨.success, m.log⟩).2.errno :: started, ?_⟩
    simp only [Step.runAt, ran, Memory.load_after h]
    rfl
  | traced site label value steps =>
    by_cases tracing : b.tracing = true
    · let entered : Context := ⟨.success, (m.trace site label).log⟩
      have entered_length : t < (m.after t entered []).cells.length :=
        Nat.lt_of_lt_of_le h (Memory.length_le_after m t entered [])
      obtain ⟨started, ran⟩ := runAllAt_eq b steps entered_length
      rw [Memory.context_after h, Memory.after_after h] at ran
      have inside : runAllAt b t steps ((m.trace site label).store t .success) =
          ((runAll b steps entered).1, m.after t (runAll b steps entered).2 started) := by
        rw [Memory.store_eq]
        exact ran
      refine ⟨started, ?_⟩
      simp only [Step.runAt, Step.run, traced, tracing, if_true, inside, Memory.load_after h,
        Memory.restore_after h]
      rfl
    · obtain ⟨started, ran⟩ := runAllAt_eq b steps h
      refine ⟨started, ?_⟩
      simp only [Step.runAt, Step.run, traced, tracing, ran, Memory.load_after h]
      rfl
  | _ =>
    refine ⟨[], ?_⟩
    simp only [Step.runAt, Memory.put_eq]

theorem runAllAt_eq (b : Build) (steps : List Step) {t : Nat} {m : Memory}
    (h : t < m.cells.length) :
    ∃ started, runAllAt b t steps m =
      ((runAll b steps (m.context t)).1, m.after t (runAll b steps (m.context t)).2 started) := by
  cases steps with
  | nil => exact ⟨[], Prod.ext rfl (Memory.after_context h).symm⟩
  | cons step rest =>
    obtain ⟨started, first⟩ := Step.runAt_eq b step h
    have later := Nat.lt_of_lt_of_le h (Memory.length_le_after m t (step.run b (m.context t)).2 started)
    obtain ⟨more, others⟩ := runAllAt_eq b rest later
    rw [Memory.context_after h, Memory.after_after h] at others
    refine ⟨started ++ more, ?_⟩
    simp only [runAllAt, first, others]
    rfl

end

/-- Threads that share a memory answer like those of a session. -/
theorem runAllAt_start (b : Build) (steps : List Step) (receiver? : Option Receiver) :
    (runAllAt b 0 steps (Memory.start receiver?)).1 = (runAll b steps (start receiver?)).1 := by
  have first : 0 < (Memory.start receiver?).cells.length := Nat.zero_lt_one
  obtain ⟨started, ran⟩ := runAllAt_eq b steps first
  rw [ran]
  rfl

/-- A step on a thread keeps the cells of all others. -/
theorem Step.load_runAt (b : Build) (step : Step) {t u : Nat} {m : Memory} (h : t < m.cells.length)
    (hu : u < m.cells.length) (other : u ≠ t) : (step.runAt b t m).2.load u = m.load u := by
  obtain ⟨started, ran⟩ := Step.runAt_eq b step h
  rw [ran]
  rw [Memory.load_after_eq hu, if_neg other]

end TracedMath.Session
