import TestCluster.CommandError
import TestCluster.OsError
import TestCluster.Program
import TestCluster.Text.Blank
import TestCluster.Text.Utf8

/-!
# Commands — external programs, run to their end

    A command succeeds if its program starts and says so when it ends; what it printed is then
    its result. Otherwise the failure is what the system says of the start, or what the program
    printed as its errors. Bytes that are no text are replaced, not refused.
-/

namespace TestCluster

/-- A program with its arguments, and the text that it is given to read. -/
structure Command where
  program : String
  args : List String
  input : Option String := none
  deriving DecidableEq, Repr

/-- Why a program does not start. -/
inductive StartFault
  | system (cause : OsError)
  /-- A zero character in the name of the program or in an argument. -/
  | zeroCharacter
  deriving DecidableEq, Repr

/-- The fault in words. -/
def StartFault.message : StartFault → String
  | .system cause => cause.message
  | .zeroCharacter => "nul byte found in provided data"

namespace Command

/-- How a command ends. -/
inductive Outcome
  | notStarted (fault : StartFault)
  | ended (succeeded : Bool) (output errors : List UInt8)
  deriving DecidableEq, Repr

/-- Commands, each answered by how it ends. -/
def execution : Interface := ⟨Command, fun _ => Outcome⟩

/-- The failure of a command. -/
def failure (c : Command) (message : String) : CommandError := .ofCall c.program c.args message

/-- What a command printed, if it succeeded. -/
def result (c : Command) : Outcome → Except CommandError String
  | .notStarted fault => .error (c.failure fault.message)
  | .ended true output _ => .ok (Text.decodeLossy output)
  | .ended false _ errors => .error (c.failure (Text.trim (Text.decodeLossy errors)))

/-- Runs a command, and gives what it printed. -/
def execute (c : Command) : Program execution (Except CommandError String) := do
  let outcome ← Program.call (I := execution) c
  pure (c.result outcome)

end Command

end TestCluster
