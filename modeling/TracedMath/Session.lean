import TracedMath.Call

/-!
Sessions: trees of steps on one thread, with further threads and traced blocks inside. Every thread
has an errno of its own, and all of them write to one log.
-/

namespace TracedMath.Session

/-- The ways to a thread's errno: its variable, a pointer to it, and the location function. -/
inductive Access where
  | variable
  | pointer
  | location
  deriving DecidableEq, Repr

inductive Step where
  | read (via : Access)
  | write (via : Access) (value : ErrorCode)
  | ceil (x : Binary64)
  | ceilf (x : Binary32)
  | modf (x : Binary64)
  | modff (x : Binary32)
  | ceilResult (x : Binary64)
  | orErrno (result : Except ErrorCode Binary64) (fallback : Binary64)
  | thread (steps : List Step)
  | traced (site : Log.Site) (label value : String) (steps : List Step)

inductive Value where
  | nothing
  | code (e : ErrorCode)
  | double (x : Binary64)
  | single (x : Binary32)
  | doubleParts (p : Binary.Parts Format.binary64)
  | singleParts (p : Binary.Parts Format.binary32)
  | result (r : Except ErrorCode Binary64)
  deriving Repr

/-- What a step returned, and the errno of its thread after it. -/
inductive Answer where
  | value (value : Value) (errno : ErrorCode)
  | thread (answers : List Answer) (errno : ErrorCode)
  | traced (value : String) (answers : List Answer) (errno : ErrorCode)

def Answer.errno : Answer → ErrorCode
  | value _ e => e
  | thread _ e => e
  | traced _ _ e => e

/-- The answer of a step that returns one value. -/
def finish (v : Value) (c : Context) : Answer × Context := (.value v c.errno, c)

mutual

/-- A new thread starts with a clear errno and leaves the errno of this one alone. -/
def Step.run (b : Build) : Step → Context → Answer × Context
  | .read _, c => finish (.code c.errno) c
  | .write _ e, c => finish .nothing { c with errno := e }
  | .ceil x, c =>
    let (y, c) := TracedMath.ceil b x c
    finish (.double y) c
  | .ceilf x, c =>
    let (y, c) := TracedMath.ceilf b x c
    finish (.single y) c
  | .modf x, c => finish (.doubleParts x.split) c
  | .modff x, c => finish (.singleParts x.split) c
  | .ceilResult x, c => finish (.result (x.ceilWith b.mode)) c
  | .orErrno result fallback, c =>
    let (y, c) := c.orErrno result fallback
    finish (.double y) c
  | .thread steps, c =>
    let (answers, ended) := runAll b steps { c with errno := .success }
    (.thread answers c.errno, { ended with errno := c.errno })
  | .traced site label value steps, c =>
    let (answers, c) := TracedMath.traced b.tracing site label (fun _ => value) (runAll b steps) c
    (.traced value answers c.errno, c)

def runAll (b : Build) : List Step → Context → List Answer × Context
  | [], c => ([], c)
  | step :: rest, c =>
    let (answer, c) := step.run b c
    let (answers, c) := runAll b rest c
    (answer :: answers, c)

end

/-- A logger on the buffer, and the level of the facade that it is put behind. -/
structure Receiver where
  filter : Log.Filter
  processName? : Option String
  maxLevel? : Option Log.Filter
  deriving DecidableEq, Repr

def Receiver.logger (r : Receiver) : Log.Logger :=
  let l := Log.Logger.initial.withOutput ⟨.buffer, r.filter⟩
  r.processName?.elim l l.withProcessName

/-- Unless a level is given every record passes the facade. -/
def Receiver.facade (r : Receiver) : Log.Facade :=
  ⟨some r.logger, r.maxLevel?.getD (.upTo .trace), .empty⟩

/-- Without a receiver nothing is logged. -/
def start (receiver? : Option Receiver) : Context :=
  ⟨.success, receiver?.elim .initial Receiver.facade⟩

/-- The answer to each step, with the text that was logged during it. -/
def answers (b : Build) : List Step → Context → List (Answer × List UInt8)
  | [], _ => []
  | step :: rest, c =>
    let (answer, c) := step.run b { c with log.sinks := c.log.sinks.drain }
    (answer, c.log.sinks.buffer.text) :: answers b rest c

end TracedMath.Session
