import TracedMath.Call
import TracedMath.Log.Startup

namespace TracedMath

/-- What the library can see of its process: the variable that asks for a level, which holds any bytes
or is not set, the log, and the errno of the one thread. -/
structure Host where
  environment? : Option (List UInt8)
  context : Context
  deriving DecidableEq, Repr

namespace Host

def initial : Host := ⟨none, ⟨.success, .initial⟩⟩

inductive Step where
  | setVariable (value : List UInt8)
  | unsetVariable
  | init
  | enable (settings : List Log.Setting)
  | log (record : Log.Record)
  | enabled (level : Log.Level)
  | ceil (x : Binary64)
  | ceilf (x : Binary32)
  | setErrno (value : ErrorCode)
  deriving DecidableEq, Repr

inductive Reply where
  | nothing
  | truth (b : Bool)
  | enabled (result : Except Log.InstallError Log.Logger)
  | double (x : Binary64)
  | single (x : Binary32)
  deriving Repr

/-- Changes the log and nothing else. -/
def withLog (h : Host) (log : Log.Facade) : Host := { h with context := { h.context with log } }

/-- Calls are those of the standard build. -/
def step (h : Host) : Step → Reply × Host
  | .setVariable value => (.nothing, { h with environment? := some value })
  | .unsetVariable => (.nothing, { h with environment? := none })
  | .init => (.nothing, h.withLog (h.context.log.init (.ofVariable h.environment?)))
  | .enable settings =>
    let (result, log) := h.context.log.enable settings
    (.enabled result, h.withLog log)
  | .log record =>
    (.truth (h.context.log.passes record.level), h.withLog (h.context.log.emit record).2)
  | .enabled level => (.truth (h.context.log.enabled level), h)
  | .ceil x =>
    let (y, context) := TracedMath.ceil .standard x h.context
    (.double y, { h with context })
  | .ceilf x =>
    let (y, context) := TracedMath.ceilf .standard x h.context
    (.single y, { h with context })
  | .setErrno value => (.nothing, { h with context := { h.context with errno := value } })

def run (h : Host) (steps : List Step) : Host := steps.foldl (fun h s => (h.step s).2) h

def drain (h : Host) : Host :=
  h.withLog { h.context.log with sinks := h.context.log.sinks.drain }

/-- The reply to each step, with the process after it. Its sinks hold what this step wrote. -/
def replies (h : Host) : List Step → List (Reply × Host)
  | [] => []
  | s :: rest =>
    let answer := h.drain.step s
    answer :: answer.2.replies rest

end Host

end TracedMath
