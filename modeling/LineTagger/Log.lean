import LineTagger.Event

/-!
The log as text: a line for each event that is serious enough, written to the standard error.
-/

namespace LineTagger

/-- How the lines of a log look. -/
structure LogStyle where
  /-- the time in front of a line -/
  stamp : String
  /-- what is told of a cause, on lines of its own -/
  describe : Fault → String

namespace LogStyle

/-- A line of the log, and what is told of its cause. -/
def line (style : LogStyle) (channel : String) (level : Level) (message : String)
    (cause : Option Fault) : List Char :=
  (style.stamp ++ " [" ++ level.name ++ "] " ++ channel ++ ": " ++ message ++ "\n" ++
    (match cause with
    | none => ""
    | some f => style.describe f ++ "\n")).toList

/-- An event with the log written out; lines below the threshold are left out. -/
def written (style : LogStyle) (threshold : Int) : Event → Option Event
  | .log channel level message cause =>
    if threshold ≤ level.rank then some (.errorOutput (style.line channel level message cause))
    else none
  | e => some e

/-- What runs, with its log written out. -/
def writeLog {α : Type} (style : LogStyle) (threshold : Int) (r : Run α) : Run α :=
  { r with events := r.events.filterMap (style.written threshold) }

end LogStyle

end LineTagger
