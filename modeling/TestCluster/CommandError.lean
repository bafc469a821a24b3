/-!
# Failed commands — what ran, and what it said
-/

namespace TestCluster

/-- An external command that failed. -/
structure CommandError where
  /-- The program and its arguments, with spaces between them. -/
  command : String
  message : String
  deriving DecidableEq, Repr

namespace CommandError

/-- A program and its arguments as one line. -/
def commandLine (program : String) (args : List String) : String :=
  " ".intercalate (program :: args)

/-- The failure of a program that was run with arguments. -/
def ofCall (program : String) (args : List String) (message : String) : CommandError :=
  ⟨commandLine program args, message⟩

/-- The failure in words. -/
def text (e : CommandError) : String := "`" ++ e.command ++ "` failed: " ++ e.message

end CommandError

end TestCluster
