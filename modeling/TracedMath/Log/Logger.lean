import TracedMath.Log.Record
import TracedMath.Log.Sinks
import TracedMath.Text.Quoted

namespace TracedMath.Log

structure Output where
  endpoint : Endpoint
  filter : Filter
  deriving DecidableEq, Repr

/-- The override named after the maximum holds the filter up to it, the one named after the minimum
holds it down to it. -/
structure Logger where
  output : Output
  minOverride? : Option Filter
  maxOverride? : Option Filter
  maxInUse? : Option Filter
  processName? : Option String
  deriving DecidableEq, Repr

/-- What an output is to write to. A buffer is given its capacity along with it. -/
inductive Destination where
  | buffer (capacity : Capacity)
  | stream (writer : StreamWriter)
  deriving DecidableEq, Repr

def Destination.endpoint : Destination → Endpoint
  | buffer _ => .buffer
  | stream writer => .stream writer

/-- Standard error. -/
def Destination.standard : Destination := .stream ⟨2⟩

inductive Setting where
  | output (destination : Destination) (filter : Filter)
  | minOverride (filter : Filter)
  | maxOverride (filter : Filter)
  | processName (name : String)
  deriving DecidableEq, Repr

/-- The output that a setting brings, if it brings one. -/
def Setting.output? : Setting → Option Output
  | output destination filter => some ⟨destination.endpoint, filter⟩
  | _ => none

/-- A buffer takes on the capacity of the latest output that is made for it. -/
def Sinks.prepare (s : Sinks) : Setting → Sinks
  | .output (.buffer capacity) _ => s.limit capacity
  | _ => s

/-- The output of a logger that is given none. -/
def Output.standard : Output := ⟨Destination.standard.endpoint, .standard⟩

namespace Logger

def initial : Logger := ⟨.standard, none, none, none, none⟩

/-- The minimum has the last word. -/
def clamp (l : Logger) (f : Filter) : Filter :=
  let raised := l.maxOverride?.elim f fun m => max f m
  l.minOverride?.elim raised fun m => min raised m

/-- Clamps the filter in use and takes it into account for the maximum. -/
def adjust (l : Logger) : Logger :=
  let filter := l.clamp l.output.filter
  { l with
    output := { l.output with filter }
    maxInUse? := some (l.maxInUse?.elim filter fun m => max filter m) }

def withOutput (l : Logger) (o : Output) : Logger := { l with output := o }.adjust

def withMinOverride (l : Logger) (f : Filter) : Logger := { l with minOverride? := some f }.adjust

def withMaxOverride (l : Logger) (f : Filter) : Logger := { l with maxOverride? := some f }.adjust

def withProcessName (l : Logger) (name : String) : Logger := { l with processName? := some name }

def configure (l : Logger) : Setting → Logger
  | .output destination filter => l.withOutput ⟨destination.endpoint, filter⟩
  | .minOverride f => l.withMinOverride f
  | .maxOverride f => l.withMaxOverride f
  | .processName name => l.withProcessName name

def build (settings : List Setting) : Logger := settings.foldl configure initial

/-- The level from which on the program may stay silent, once this logger is installed. -/
def levelNeeded (l : Logger) : Filter := l.maxInUse?.getD .standard

def enabled (l : Logger) (level : Level) : Bool := l.output.filter.admits level

/-- The line of a record as this logger writes it. -/
def line (l : Logger) (r : Record) : String := r.text (l.processName?.getD "")

/-- An error of the endpoint is passed over, a panic reaches the caller: the answer is whether one
did. -/
def log (l : Logger) (r : Record) (s : Sinks) : Bool × Sinks :=
  if l.enabled r.level then
    let (outcome, s) := s.write l.output.endpoint (r.pieces (l.processName?.getD ""))
    (outcome == .panicked, s)
  else (false, s)

/-- Nothing is ever kept back, so there is nothing to hand on. -/
def flush (_ : Logger) (s : Sinks) : Sinks := s

end Logger

end TracedMath.Log
