import TracedMath.Log.Logger

namespace TracedMath.Log

/-- The text of a value that may be missing. -/
def stateOption (text : α → String) : Option α → String
  | none => "None"
  | some a => "Some(" ++ text a ++ ")"

/-- The endpoint has no text of its own. -/
def Output.state (o : Output) : String :=
  "Output \x7b endpoint: \"opaque\", filter: " ++ o.filter.name ++ " \x7d"

def Logger.state (l : Logger) : String :=
  "MathLogger \x7b output: " ++ l.output.state
    ++ ", min_filter: " ++ stateOption Filter.name l.minOverride?
    ++ ", max_filter: " ++ stateOption Filter.name l.maxOverride?
    ++ ", max_level_in_use: " ++ stateOption Filter.name l.maxInUse?
    ++ ", process_name: " ++ stateOption Text.quoted l.processName?
    ++ " \x7d"

end TracedMath.Log
