import TestCluster.Command
import TestCluster.Provider
import TestCluster.Text.Line
import TestCluster.Text.Numeral

/-!
# The `kind` tool as a provider

    Every call to the provider is one command. The tool reads the description of a new cluster
    from its input, and prints names one to a line.
-/

namespace TestCluster.Kind

/-- The arguments for a new cluster. -/
def createArguments (r : CreateRequest) : List String :=
  ["create", "cluster", "--name", r.name, "--config", "-", "--kubeconfig", r.kubeconfig] ++
    (match r.nodeImage with
      | some image => ["--image", image]
      | none => []) ++
    match r.waitSeconds with
    | some w => ["--wait", Text.decimal w.toNat ++ "s"]
    | none => []

/-- The command for a call. -/
def command (binary : String) : Provider.Call → Command
  | .create r => ⟨binary, createArguments r, some r.config⟩
  | .delete cluster kubeconfig =>
    ⟨binary, ["delete", "cluster", "--name", cluster, "--kubeconfig", kubeconfig], none⟩
  | .list => ⟨binary, ["get", "clusters"], none⟩
  | .exportKubeconfig cluster path =>
    ⟨binary, ["export", "kubeconfig", "--name", cluster, "--kubeconfig", path], none⟩
  | .nodes cluster => ⟨binary, ["get", "nodes", "--name", cluster], none⟩
  | .load cluster node archive =>
    ⟨binary, ["load", "image-archive", archive, "--name", cluster, "--nodes", node], none⟩

/-- What a call gives, from what the tool printed. -/
def result (output : String) : (c : Provider.Call) → Provider.Result c
  | .list | .nodes _ => Text.filledLines output
  | .create _ | .delete .. | .exportKubeconfig .. | .load .. => ()

/-- Answers a call to the provider by running the tool. -/
def answer (binary : String) (c : Provider.Call) :
    Program Command.execution (Provider.calls.Answer c) := do
  let printed ← (command binary c).execute
  pure (printed.map (result · c))

/-- The name of the tool, unless another one is chosen. -/
def defaultBinary : String := "kind"

end TestCluster.Kind
