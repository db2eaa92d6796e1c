import TracedMath.Log.Facade

namespace TracedMath.Log

def levelVariable : String := "ANSIMATH_LOG_LEVEL"

/-- What the variable asks for. -/
inductive LevelRequest where
  | unset
  | level (filter : Filter)
  | invalid (text : String)
  deriving DecidableEq, Repr

/-- Bytes that are no text count as unset. -/
def LevelRequest.ofVariable (value? : Option (List UInt8)) : LevelRequest :=
  match value?.bind ofUtf8? with
  | none => .unset
  | some text =>
    match Filter.ofName? text with
    | some f => .level f
    | none => .invalid text

/-- The logger on standard error. What is no level leaves the standard filter. -/
def LevelRequest.logger : LevelRequest → Logger
  | .level f => Logger.initial.withOutput ⟨Destination.standard.endpoint, f⟩
  | _ => .initial

def refusedSite : Site := ⟨"ansimath::platform::logger", 24⟩

def invalidSite : Site := ⟨"ansimath::platform::logger", 27⟩

def refusedRecord : Record := refusedSite.record .error "Logger already initialized"

def invalidRecord (text : String) : Record :=
  invalidSite.record .warn ("ignoring invalid " ++ levelVariable ++ "=" ++ Text.quoted text)

namespace Facade

/-- Complaints come after the installation, through whichever logger is installed by then. -/
def init (f : Facade) (request : LevelRequest) : Facade :=
  let installed :=
    match f.install request.logger with
    | .ok installed => installed
    | .error _ => (f.emit refusedRecord).2
  match request with
  | .invalid text => (installed.emit (invalidRecord text)).2
  | _ => installed

/-- The buffer is prepared while the logger is built, so a refused logger has done that too. -/
def enable (f : Facade) (settings : List Setting) : Except InstallError Logger × Facade :=
  let f := { f with sinks := settings.foldl Sinks.prepare f.sinks }
  let l := Logger.build settings
  match f.install l with
  | .ok installed => (.ok l, installed)
  | .error e => (.error e, f)

theorem init_of_installed {f : Facade} {l : Logger} (h : f.logger? = some l)
    (request : LevelRequest) :
    (f.init request).logger? = f.logger? ∧ (f.init request).maxLevel = f.maxLevel := by
  unfold init
  cases request <;> simp [install_of_installed h, emit_logger]

/-- A refused logger has had its outputs prepared, and nothing else. -/
theorem enable_of_installed {f : Facade} {l : Logger} (h : f.logger? = some l)
    (settings : List Setting) :
    f.enable settings =
      (.error .alreadyInstalled, { f with sinks := settings.foldl Sinks.prepare f.sinks }) := by
  simp [enable, install, h]

theorem enable_of_vacant {f : Facade} (h : f.logger? = none) (settings : List Setting) :
    f.enable settings = (.ok (Logger.build settings),
      { f with
        logger? := some (Logger.build settings)
        maxLevel := (Logger.build settings).levelNeeded
        sinks := settings.foldl Sinks.prepare f.sinks }) := by
  simp [enable, install, h]

end Facade

end TracedMath.Log
