import TracedMath.Log.Logger

/-!
Runs of one logger: settings, records and questions in any order. The endpoint of its output stands
behind a lock, and a panic of the endpoint leaves the lock poisoned.
-/

namespace TracedMath.Log

structure Lock where
  poisoned : Bool
  deriving DecidableEq, Repr

namespace Lock

def clean : Lock := ⟨false⟩

/-- A poisoned lock gives its content out as an error. -/
def acquire (lock : Lock) (content : α) : Except α α :=
  if lock.poisoned then .error content else .ok content

/-- The content, whichever way it was given out. -/
def recover : Except α α → α
  | .ok content => content
  | .error content => content

/-- A panic while the lock is held poisons it for good. -/
def release (lock : Lock) (outcome : Outcome) : Lock := ⟨lock.poisoned || outcome == .panicked⟩

theorem recover_acquire (lock : Lock) (content : α) : recover (lock.acquire content) = content := by
  unfold acquire
  split <;> rfl

end Lock

/-- The lock is the one of the logger's output. -/
structure Desk where
  logger : Logger
  lock : Lock
  sinks : Sinks
  deriving DecidableEq, Repr

inductive Action where
  | configure (setting : Setting)
  | log (record : Record)
  | enabled (level : Level)
  | flush
  | refill (room? : Option Nat)
  deriving DecidableEq, Repr

inductive Reply where
  | configured (output? : Option Output)
  | logged (panicked : Bool)
  | enabled (admitted : Bool)
  | done
  deriving DecidableEq, Repr

namespace Desk

def initial : Desk := ⟨.initial, .clean, .empty⟩

/-- A new output comes with a lock of its own. Any other setting keeps the lock that is there. -/
def configure (d : Desk) (setting : Setting) : Desk where
  logger := d.logger.configure setting
  lock := if setting.output?.isSome then .clean else d.lock
  sinks := d.sinks.prepare setting

/-- Logs through the lock, and goes on with the endpoint of a poisoned one too. -/
def log (d : Desk) (r : Record) : Bool × Desk :=
  if d.logger.enabled r.level then
    let endpoint := Lock.recover (d.lock.acquire d.logger.output.endpoint)
    let (outcome, sinks) := d.sinks.write endpoint (r.pieces (d.logger.processName?.getD ""))
    (outcome == .panicked, { d with lock := d.lock.release outcome, sinks })
  else (false, d)

def act (d : Desk) : Action → Reply × Desk
  | .configure setting => (.configured setting.output?, d.configure setting)
  | .log record =>
    let (panicked, desk) := d.log record
    (.logged panicked, desk)
  | .enabled level => (.enabled (d.logger.enabled level), d)
  | .flush => (.done, { d with sinks := d.logger.flush d.sinks })
  | .refill room? => (.done, { d with sinks := d.sinks.refill room? })

def run (d : Desk) (actions : List Action) : Desk := actions.foldl (fun d a => (d.act a).2) d

/-- The reply to each action, with the desk after it. Its sinks hold what this action wrote. -/
def replies (d : Desk) : List Action → List (Reply × Desk)
  | [] => []
  | a :: rest =>
    let answer := { d with sinks := d.sinks.drain }.act a
    answer :: answer.2.replies rest

/-- A poisoned lock does not show: what is written, and whether that panics, is up to the logger and
the sinks. -/
theorem log_eq (d : Desk) (r : Record) :
    d.log r = ((d.logger.log r d.sinks).1,
      { d with
        lock := ⟨d.lock.poisoned || (d.logger.log r d.sinks).1⟩
        sinks := (d.logger.log r d.sinks).2 }) := by
  unfold log Logger.log
  split
  · rw [Lock.recover_acquire]
    rfl
  · simp

end Desk

end TracedMath.Log
