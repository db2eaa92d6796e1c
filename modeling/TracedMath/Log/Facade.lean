import TracedMath.Log.Logger

namespace TracedMath.Log

/-- The one place of a process that records are handed to. A record has to pass its level before the
logger sees it. -/
structure Facade where
  logger? : Option Logger
  maxLevel : Filter
  sinks : Sinks
  deriving DecidableEq, Repr

inductive InstallError where
  | alreadyInstalled
  deriving DecidableEq, Repr

def InstallError.message : InstallError → String
  | alreadyInstalled =>
    "attempted to set a logger after the logging system was already initialized"

namespace Facade

/-- No logger, and no record passes. -/
def initial : Facade := ⟨none, .off, .empty⟩

/-- The first logger stays, and with it the level that it needs. -/
def install (f : Facade) (l : Logger) : Except InstallError Facade :=
  match f.logger? with
  | some _ => .error .alreadyInstalled
  | none => .ok { f with logger? := some l, maxLevel := l.levelNeeded }

/-- The installed logger's answer. Without one the answer is no. -/
def enabled (f : Facade) (level : Level) : Bool := f.logger?.any fun l => l.enabled level

def passes (f : Facade) (level : Level) : Bool := f.maxLevel.admits level

/-- Hands a record on, and tells whether an endpoint panicked. -/
def emit (f : Facade) (r : Record) : Bool × Facade :=
  match f.logger? with
  | none => (false, f)
  | some l =>
    if f.passes r.level then
      let (panicked, sinks) := l.log r f.sinks
      (panicked, { f with sinks })
    else (false, f)

theorem install_of_installed {f : Facade} {l : Logger} (h : f.logger? = some l) (m : Logger) :
    f.install m = .error .alreadyInstalled := by
  simp [install, h]

theorem install_of_vacant {f : Facade} (h : f.logger? = none) (l : Logger) :
    f.install l = .ok { f with logger? := some l, maxLevel := l.levelNeeded } := by
  simp [install, h]

theorem emit_logger (f : Facade) (r : Record) :
    (f.emit r).2.logger? = f.logger? ∧ (f.emit r).2.maxLevel = f.maxLevel := by
  unfold emit
  split
  · exact ⟨rfl, rfl⟩
  · split <;> exact ⟨rfl, rfl⟩

end Facade

end TracedMath.Log
