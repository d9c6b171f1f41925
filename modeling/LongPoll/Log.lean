import LongPoll.Fault

/-!
Records of the log.
-/

namespace LongPoll

/-- One record: a level, a message and named details. -/
structure LogRecord where
  level : Level
  message : String
  fields : List (String × String)
  deriving DecidableEq, Repr

namespace LogRecord

/-- The record is shown at a given verbosity. -/
def isShownAt (r : LogRecord) (limit : Level) : Bool := r.level.verbosity ≤ limit.verbosity

/-- The record in one line. -/
def line (r : LogRecord) : String :=
  String.join (r.level.name :: " " :: r.message :: r.fields.map fun f => " " ++ f.1 ++ "=" ++ f.2)

end LogRecord

end LongPoll
