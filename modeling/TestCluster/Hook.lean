import TestCluster.Cluster
import TestCluster.Ingress

/-!
# Hooks — what is done to a new cluster before it is handed out

    A hook has a name and does something to a cluster, or fails. Two kinds of hook are known
    in full: the one that applies a fixed manifest and the one that installs the ingress
    controller. Of any other only the name is known.
-/

namespace TestCluster

/-- Something to be done to a new cluster. -/
inductive Hook
  | custom (name : String)
  | manifest (name text : String)
  | ingress (urls : List String)
  deriving DecidableEq, Repr

namespace Hook

/-- The name of a hook. -/
def name : Hook → String
  | custom name | manifest name _ => name
  | ingress _ => "ingress-nginx"

/-- Does to a cluster what a hook does. -/
def run (cluster : Cluster) : Hook → Attempt World.calls Unit
  | custom name => ExceptT.mk (World.hook name cluster.name)
  | manifest _ text => do
    let c ← ClientConfig.ofFile cluster.kubeconfig
    let _ ← c.applyManifest {} text
    pure ()
  | ingress urls => Ingress.install cluster.kubeconfig urls

/-- Runs a hook; a failure names the hook. -/
def apply (cluster : Cluster) (hook : Hook) : Attempt World.calls Unit :=
  ExceptT.mk (Except.mapError (.hook hook.name) <$> (hook.run cluster).run)

end Hook

end TestCluster
