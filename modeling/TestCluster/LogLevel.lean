import TestCluster.Text.Case

/-!
# Log levels — how much the program says about its work
-/

namespace TestCluster

/-- How much is logged. -/
inductive LogLevel
  | trace
  | debug
  | info
  | warn
  | error
  deriving DecidableEq, Repr

namespace LogLevel

/-- A text that names no level, in lower case. -/
structure Unknown where
  text : String
  deriving DecidableEq, Repr

/-- The unknown level in words. -/
def Unknown.message (u : Unknown) : String := "unknown log level: " ++ u.text

/-- Reads a level's name in any letter case; `warning` is a second name of `warn`. -/
def ofText (s : String) : Except Unknown LogLevel :=
  match Text.lowercase s with
  | "trace" => .ok .trace
  | "debug" => .ok .debug
  | "info" => .ok .info
  | "warn" => .ok .warn
  | "warning" => .ok .warn
  | "error" => .ok .error
  | other => .error ⟨other⟩

/-- The name a log line carries. -/
def tag : LogLevel → String
  | .trace => "TRACE"
  | .debug => "DEBUG"
  | .info => "INFO"
  | .warn => "WARN"
  | .error => "ERROR"

/-- The level in force: asking for verbose output wins over a named level, and `info` is
    the level when neither is given. -/
def resolve (verbose : Bool) (level : Option LogLevel) : LogLevel :=
  if verbose then .debug else level.getD .info

end LogLevel

end TestCluster
