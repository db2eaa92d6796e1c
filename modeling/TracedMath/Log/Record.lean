import TracedMath.Log.Level
import TracedMath.Text.Utf8

namespace TracedMath.Log

structure Record where
  level : Level
  target : String
  modulePath? : Option String
  line? : Option UInt32
  message : String
  deriving DecidableEq, Repr

/-- A place in a program that makes records. -/
structure Site where
  path : String
  line : UInt32
  deriving DecidableEq, Repr

def Site.record (s : Site) (level : Level) (message : String) : Record :=
  ⟨level, s.path, some s.path, some s.line, message⟩

namespace Record

/-- A module path that is there comes before the target, even if it is empty. -/
def place (r : Record) : String := r.modulePath?.getD r.target

def lineMark (r : Record) : List String :=
  match r.line? with
  | some n => [":", toString n.toNat]
  | none => []

/-- The pieces of a line, in the order in which an endpoint is handed them. -/
def pieces (r : Record) (processName : String) : List String :=
  ["[", processName, "@", r.place] ++ r.lineMark ++ [" ", r.level.upperName, "] ", r.message, "\n"]

def text (r : Record) (processName : String) : String := String.join (r.pieces processName)

/-- The bytes of a line are those of its pieces. -/
theorem utf8_text (r : Record) (processName : String) :
    utf8 (r.text processName) = (r.pieces processName).flatMap utf8 := utf8_join _

end Record

end TracedMath.Log
