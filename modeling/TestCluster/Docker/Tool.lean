import TestCluster.Command
import TestCluster.Provider

/-!
# The `docker` tool as an image tool

    Every call to the image tool is one command. An image is there if the tool prints an
    identifier for it.
-/

namespace TestCluster.Docker

/-- The command for a call. -/
def command (binary : String) : ImageTool.Call → Command
  | .exists_ image => ⟨binary, ["images", "-q", image], none⟩
  | .pull image => ⟨binary, ["pull", image], none⟩
  | .save images archive => ⟨binary, ["save", "-o", archive] ++ images, none⟩

/-- What a call gives, from what the tool printed. -/
def result (output : String) : (c : ImageTool.Call) → ImageTool.Result c
  | .exists_ _ => !(Text.trimChars output.toList).isEmpty
  | .pull _ | .save .. => ()

/-- Answers a call to the image tool by running the tool. -/
def answer (binary : String) (c : ImageTool.Call) :
    Program Command.execution (ImageTool.calls.Answer c) := do
  let printed ← (command binary c).execute
  pure (printed.map (result · c))

/-- The name of the tool, unless another one is chosen. -/
def defaultBinary : String := "docker"

end TestCluster.Docker
