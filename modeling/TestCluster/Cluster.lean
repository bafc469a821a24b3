import TestCluster.Cluster.Preload
import TestCluster.Kind.Document

/-!
# Clusters — brought up, looked up and torn down

    A new cluster goes through its stages in a fixed order: its host ports are checked, its
    node image is pulled, the provider brings it up, its kubeconfig is exported and its images
    are loaded. Once the provider has brought it up, a failure in a later stage deletes it
    again, and it is the stage's failure that is reported, whatever comes of the deletion.
-/

namespace TestCluster

/-- A cluster that was brought up or found, and where its kubeconfig is. -/
structure Cluster where
  name : String
  kubeconfig : String
  deriving DecidableEq, Repr

namespace Cluster

/-- The address on which host ports are published: every address of the machine. -/
def hostAddress : IpAddress := .everyV4

/-- Finds out whether a host port is free, by binding it and letting go of it. -/
def checkHostPort (port : NodePort) : Attempt World.calls Unit := do
  match ← World.host (.bind hostAddress port.host) with
  | .error cause => throw (.portUnavailable port.host cause)
  | .ok bound => World.host (.release hostAddress bound)

/-- Exports the kubeconfig of a cluster. -/
def exportKubeconfig (c : Cluster) : Attempt World.calls Unit :=
  World.tryProvider (.exportKubeconfig c.name c.kubeconfig) (.backend .exportKubeconfig c.name)

/-- Tears a cluster down. -/
def delete (c : Cluster) : Attempt World.calls Unit :=
  World.tryProvider (.delete c.name c.kubeconfig) (.backend .delete c.name)

/-- Does something for a new cluster; if that fails, the cluster is torn down again. -/
def orDelete {α : Type} (c : Cluster) (work : Attempt World.calls α) : Attempt World.calls α :=
  ExceptT.mk do
    match ← work.run with
    | .ok a => pure (.ok a)
    | .error cause => do
      let _ ← c.delete.run
      pure (.error cause)

/-- Pulls the image of a new cluster's nodes, if one is chosen. -/
def pullNodeImage : Option String → Attempt World.calls Unit
  | none => pure ()
  | some image => World.tryImages (.pull image) (.nodeImage image)

/-- What the provider is asked for. -/
def request (tempDir : String) (config : ClusterConfig) : CreateRequest where
  name := config.name
  config := config.render
  nodeImage := config.image?
  waitSeconds := config.options.waitSeconds
  kubeconfig := config.kubeconfigPath tempDir

/-- The stages after the provider has brought a cluster up. -/
def equip (c : Cluster) (images : List String) : Attempt World.calls Unit := do
  c.exportKubeconfig
  if images.isEmpty then pure ()
  else do
    let nodes : List String ← World.tryProvider (.nodes c.name) (.backend .listNodes c.name)
    preload c.name nodes images

/-- Brings a cluster up. -/
def create (tempDir : String) (config : ClusterConfig) : Attempt World.calls Cluster := do
  config.options.nodePorts.forM checkHostPort
  pullNodeImage config.image?
  World.tryProvider (.create (request tempDir config)) (.backend .create config.name)
  let cluster : Cluster := ⟨config.name, config.kubeconfigPath tempDir⟩
  cluster.orDelete (cluster.equip config.options.images)
  pure cluster

/-- Whether the provider lists a cluster of a name. -/
def isListed (name : String) : Attempt World.calls Bool := do
  let names : List String ← World.tryProvider .list (.backend .list name)
  pure (names.contains name)

/-- Looks a cluster up by its name, and exports its kubeconfig to a given path or else to the
    default one; nothing if there is no such cluster. -/
def find? (tempDir name : String) (kubeconfig : Option String) :
    Attempt World.calls (Option Cluster) := do
  if ← isListed name then
    let cluster : Cluster := ⟨name, kubeconfig.getD (defaultKubeconfigPath tempDir name)⟩
    cluster.exportKubeconfig
    pure (some cluster)
  else pure none

/-- Tears a cluster down of which only the name is known, with a temporary file in place of its
    kubeconfig. If there is no such cluster, that is an error unless it is to pass quietly. -/
def deleteNamed (name : String) (quiet : Bool) : Attempt World.calls Unit := do
  if ← isListed name then
    World.withTemporary (name ++ "-kubeconfig-") "" fun kubeconfig => delete ⟨name, kubeconfig⟩
  else if quiet then pure ()
  else throw (.clusterNotFound name)

end Cluster

end TestCluster
