import TestCluster.ClusterConfig

/-!
# The kind document — a cluster configuration as the text `kind` reads

    A raw configuration stands for itself. Otherwise the document has the control plane
    node, its port mappings, the worker nodes and the etcd patch, always in that order.
-/

namespace TestCluster.ClusterConfig

/-- The lines every document starts with, up to the control plane node. -/
def documentHeader : String :=
  "kind: Cluster\napiVersion: kind.x-k8s.io/v1alpha4\nnodes:\n- role: control-plane\n"

/-- One port mapping of the control plane node. -/
def portMapping (port : NodePort) : String :=
  "  - containerPort: " ++ Text.decimal port.node.toNat
    ++ "\n    hostPort: " ++ Text.decimal port.host.toNat
    ++ "\n    listenAddress: \"0.0.0.0\"\n    protocol: tcp\n"

/-- The port mappings of the control plane node; no line at all when there are none. -/
def portMappings (ports : List NodePort) : String :=
  if ports.isEmpty then ""
  else "  extraPortMappings:\n" ++ String.join (ports.map portMapping)

/-- One worker node. -/
def workerNode : String := "- role: worker\n"

/-- The patch that moves etcd's data onto a memory-backed path. -/
def etcdPatch : String :=
  "kubeadmConfigPatches:\n- |\n  kind: ClusterConfiguration\n  etcd:\n    local:\n" ++
    "      dataDir: /tmp/etcd\n"

/-- The document of options that have no raw configuration. -/
def composed (options : Options) : String :=
  documentHeader ++ portMappings options.nodePorts
    ++ String.join (List.replicate options.workers.toNat workerNode)
    ++ (if options.etcdRamDisk then etcdPatch else "")

/-- The text handed to `kind`. -/
def render (config : ClusterConfig) : String :=
  match config.options.rawConfig with
  | some raw => raw
  | none => composed config.options

end TestCluster.ClusterConfig
