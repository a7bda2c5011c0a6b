import Marginalia.Text.Basic

/-!
Log entries: a level, a message and named values.
-/

namespace Marginalia

namespace Log

inductive Level where
  | debug
  | info
  | warn
  | error
  | fatal
deriving DecidableEq, Repr, Inhabited

/-- How much a level matters. -/
def Level.rank : Level → Nat
  | .debug => 0
  | .info => 1
  | .warn => 2
  | .error => 3
  | .fatal => 4

inductive Value where
  | text (t : Text)
  | int (i : Int)
deriving DecidableEq, Repr

structure Entry where
  level : Level
  message : Text
  fields : List (Text × Value) := []
deriving DecidableEq, Repr

/-- Is the entry kept by a log that starts at `least`? -/
def Entry.reaches (e : Entry) (least : Level) : Bool := least.rank ≤ e.level.rank

end Log

end Marginalia
