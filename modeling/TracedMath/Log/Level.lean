namespace TracedMath.Log

/-- From the gravest level to the most verbose one. -/
inductive Level where
  | error
  | warn
  | info
  | debug
  | trace
  deriving DecidableEq, Repr

inductive Filter where
  | off
  | upTo (level : Level)
  deriving DecidableEq, Repr

namespace Level

def rank : Level → Nat
  | error => 1
  | warn => 2
  | info => 3
  | debug => 4
  | trace => 5

def name : Level → String
  | error => "Error"
  | warn => "Warn"
  | info => "Info"
  | debug => "Debug"
  | trace => "Trace"

def upperName : Level → String
  | error => "ERROR"
  | warn => "WARN"
  | info => "INFO"
  | debug => "DEBUG"
  | trace => "TRACE"

end Level

namespace Filter

def rank : Filter → Nat
  | off => 0
  | upTo l => l.rank

/-- The name within a state text. -/
def name : Filter → String
  | off => "Off"
  | upTo l => l.name

def upperName : Filter → String
  | off => "OFF"
  | upTo l => l.upperName

/-- The filter of an output that is given none. -/
def standard : Filter := .upTo .info

def all : List Filter :=
  [.off, .upTo .error, .upTo .warn, .upTo .info, .upTo .debug, .upTo .trace]

def admits (f : Filter) (l : Level) : Bool := l.rank ≤ f.rank

instance : LE Filter := ⟨fun f g => f.rank ≤ g.rank⟩

instance (f g : Filter) : Decidable (f ≤ g) := inferInstanceAs (Decidable (f.rank ≤ g.rank))

instance : Max Filter := ⟨fun f g => if f ≤ g then g else f⟩

instance : Min Filter := ⟨fun f g => if f ≤ g then f else g⟩

/-- The case of ASCII letters does not matter, anything else does. -/
def ofName? (s : String) : Option Filter :=
  all.find? fun f => f.upperName.toList == s.toList.map Char.toUpper

theorem mem_all (f : Filter) : f ∈ all := by
  rcases f with _ | (_ | _ | _ | _ | _) <;> decide

/-- What is said of every filter can be checked on the few that there are. -/
instance (p : Filter → Prop) [DecidablePred p] : Decidable (∀ f, p f) :=
  decidable_of_iff (∀ f ∈ all, p f) ⟨fun h f => h f (mem_all f), fun h f _ => h f⟩

theorem admits_trace_iff (f : Filter) : f.admits .trace = true ↔ f = .upTo .trace := by
  cases f with
  | off => decide
  | upTo level => cases level <;> decide

theorem rank_max (f g : Filter) : (max f g).rank = max f.rank g.rank := by
  simp only [Max.max, LE.le]
  split <;> grind

theorem rank_min (f g : Filter) : (min f g).rank = min f.rank g.rank := by
  simp only [Min.min, LE.le]
  split <;> grind

theorem rank_injective {f g : Filter} (h : f.rank = g.rank) : f = g := by
  have apart : ∀ f g : Filter, f.rank = g.rank → f = g := by decide
  exact apart f g h

end Filter

end TracedMath.Log
