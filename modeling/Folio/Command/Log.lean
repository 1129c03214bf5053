/-!
# Log

What a run reports besides its output.
-/

namespace Folio.Command

/-- How much a record matters. -/
inductive Level where
  | debug | warning | error
  deriving DecidableEq, Repr

/-- The name of a level. -/
def Level.name : Level → String
  | .debug => "DEBUG"
  | .warning => "WARNING"
  | .error => "ERROR"

/-- A record of the log. -/
structure Record where
  level : Level
  message : String
  deriving DecidableEq, Repr

/-- The records of an error with its causes, each the cause of the one before. -/
def errorRecords : List String → List Record
  | [] => []
  | message :: causes =>
    ⟨.error, "Error: " ++ message⟩ :: causes.map fun cause => ⟨.error, "\tCaused By: " ++ cause⟩

end Folio.Command
