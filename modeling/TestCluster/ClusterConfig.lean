import TestCluster.Options
import TestCluster.Path
import TestCluster.Text.Blank

/-!
# Cluster configurations — a name and options that passed the checks

    A configuration has a name that is not empty and only valid node ports. What a run needs
    besides, the kubeconfig path and the node image, is determined by name and options, so
    it is the same in every stage of a run.
-/

namespace TestCluster

/-- The cluster name when none is given. -/
def defaultClusterName : String := "e2e-cluster"

/-- The image of a node that runs a Kubernetes version. -/
def nodeImage (version : String) : String :=
  match Text.trimChars version.toList with
  | 'v' :: rest => String.ofList ("kindest/node:v".toList ++ rest)
  | rest => String.ofList ("kindest/node:v".toList ++ rest)

/-- Where a cluster's kubeconfig goes when no place is chosen. -/
def defaultKubeconfigPath (tempDir cluster : String) : String :=
  Path.join tempDir (cluster ++ "-kubeconfig")

/-- A name and options that may be used to create a cluster. -/
structure ClusterConfig where
  name : String
  options : Options
  name_ne_empty : name ≠ ""
  nodePorts_valid : ∀ p ∈ options.nodePorts, p.IsValid

namespace ClusterConfig

/-- Why a name and options make no configuration. -/
inductive Fault
  | emptyName
  | invalidPort (port : NodePort)
  deriving DecidableEq, Repr

/-- The fault in words. -/
def Fault.message : Fault → String
  | .emptyName => "cluster name must not be empty"
  | .invalidPort port =>
    "node port mapping " ++ port.text ++ " must have non-zero node and host ports"

/-- Checks a name and options; of several bad ports the first is reported. -/
def ofOptions (name : String) (options : Options) : Except Fault ClusterConfig :=
  if hname : name = "" then .error .emptyName
  else
    match hport : options.nodePorts.find? fun p => decide (¬ p.IsValid) with
    | some port => .error (.invalidPort port)
    | none => .ok {
        name, options, name_ne_empty := hname
        nodePorts_valid := fun p hp => by
          simpa using List.find?_eq_none.1 hport p hp }

/-- Where the kubeconfig goes: the chosen place, or the default one for the name. -/
def kubeconfigPath (tempDir : String) (config : ClusterConfig) : String :=
  config.options.kubeconfig.getD (defaultKubeconfigPath tempDir config.name)

/-- The node image of the chosen version; none when no version, or a blank one, is chosen. -/
def image? (config : ClusterConfig) : Option String :=
  match config.options.kubernetesVersion with
  | none => none
  | some version => if Text.trim version = "" then none else some (nodeImage version)

end ClusterConfig

end TestCluster
