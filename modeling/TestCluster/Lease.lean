import TestCluster.Setup

/-!
# Leases — a cluster in the hands of a test run

    A run starts by looking for a cluster of the wanted name. One that is there is reused or
    else torn down and made anew. The hooks run on a new cluster only, in their order; if one
    fails, the cluster is torn down again. A reused cluster is never cleaned up, a new one if
    the setup says so.
-/

namespace TestCluster

/-- A cluster that a test run uses. -/
structure Lease where
  cluster : Cluster
  /-- Whether the cluster is torn down when the run cleans up. -/
  cleansUp : Bool
  ingressAddress : String
  ingressPort : UInt16
  deriving DecidableEq, Repr

namespace Lease

/-- Where the ingress controller is reached from this machine. -/
def ingressUrl (l : Lease) : String :=
  "http://" ++ l.ingressAddress ++ ":" ++ Text.decimal l.ingressPort.toNat

/-- A lease of a cluster under a setup. -/
def ofSetup (s : Setup) (cluster : Cluster) (cleansUp : Bool) : Lease :=
  ⟨cluster, cleansUp, s.ingressAddress, s.ingressPort⟩

/-- Waits for as long as is said. -/
def settle : Option UInt64 → Attempt World.calls Unit
  | none => pure ()
  | some seconds => World.host (.pause seconds)

/-- Makes a new cluster for a setup, runs its hooks, and waits for the cluster to settle. -/
def createFor (tempDir : String) (s : Setup) (config : ClusterConfig) :
    Attempt World.calls Lease := do
  let cluster ← Cluster.create tempDir config
  cluster.orDelete (s.hooks.forM (Hook.apply cluster))
  settle s.options.waitSeconds
  pure (ofSetup s cluster s.cleanup)

/-- Finds or makes the cluster of a setup to which nothing has to be added. -/
def startResolved (tempDir : String) (s : Setup) : Attempt World.calls Lease := do
  match ClusterConfig.ofOptions s.name s.options with
  | .error fault => throw (.invalidConfig fault)
  | .ok config =>
    match ← Cluster.find? tempDir config.name (some (config.kubeconfigPath tempDir)) with
    | none => createFor tempDir s config
    | some cluster =>
      if s.reuse then pure (ofSetup s cluster false)
      else do
        cluster.delete
        createFor tempDir s config

/-- Finds or makes the cluster of a setup. -/
def start (tempDir : String) (env : Environment) (s : Setup) : Attempt World.calls Lease :=
  startResolved tempDir (s.resolve env)

/-- Tears the cluster down if the lease says so. -/
def cleanUp (l : Lease) : Attempt World.calls Unit :=
  if l.cleansUp then l.cluster.delete else pure ()

/-- Tears the cluster down in any case. -/
def delete (l : Lease) : Attempt World.calls Unit := l.cluster.delete

end Lease

end TestCluster
