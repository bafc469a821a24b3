import TestCluster.NodePort

/-!
# Cluster options — what a cluster is to look like

    Every option has a default, so that an options value can be built up from nothing. How
    options are kept in files is told in `TestCluster.Options.File`.
-/

namespace TestCluster

/-- How a cluster is to look and where its kubeconfig goes. -/
structure Options where
  /-- A kind document to use as it stands, in place of all the other options. -/
  rawConfig : Option String := none
  /-- Images loaded into every node. -/
  images : List String := []
  /-- Seconds that creation waits for the nodes, and a lease once more after the hooks. -/
  waitSeconds : Option UInt64 := none
  nodePorts : List NodePort := []
  /-- How many nodes there are besides the control plane. -/
  workers : UInt32 := 0
  kubernetesVersion : Option String := none
  kubeconfig : Option String := none
  /-- Whether etcd keeps its data on a memory-backed path. -/
  etcdRamDisk : Bool := false
  deriving DecidableEq, Repr, Inhabited

end TestCluster
