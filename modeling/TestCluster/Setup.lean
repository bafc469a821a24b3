import TestCluster.Hook
import TestCluster.Overrides

/-!
# Setups — what a test run wants of its cluster

    A setup says which cluster is wanted, which hooks are to run on it, and whether a cluster
    of that name may be reused and is to be cleaned up in the end. Settings of the environment
    replace some of this, if the setup lets them. A setup with ingress gets one more node port,
    after all others, and one more hook, before all others.
-/

namespace TestCluster

/-- What a test run wants of its cluster. -/
structure Setup where
  name : String := defaultClusterName
  options : Options := {}
  ingress : Bool := false
  /-- The address under which this machine is known to the user of the ingress. -/
  ingressAddress : String := "localhost"
  ingressPort : UInt16 := Ingress.defaultPort
  hooks : List Hook := []
  reuse : Bool := false
  cleanup : Bool := true
  /-- Whether settings of the environment go before those above. -/
  heedsEnvironment : Bool := false
  deriving DecidableEq, Repr

namespace Setup

/-- The setup with those settings replaced that are overridden. -/
def override (s : Setup) (o : Overrides) : Setup :=
  { s with
    cleanup := o.cleanup.getD s.cleanup
    reuse := o.reuse.getD s.reuse
    name := o.name.getD s.name
    ingressPort := o.ingressPort.getD s.ingressPort }

/-- The setup as the environment leaves it. -/
def inEnvironment (s : Setup) (env : Environment) : Setup :=
  if s.heedsEnvironment then s.override (.ofEnvironment env) else s

/-- The setup with all that its ingress needs. That what will fetch the manifests can be made
    ready is taken for granted. -/
def withIngressParts (s : Setup) : Setup :=
  if s.ingress then
    { s with
      options :=
        { s.options with nodePorts := s.options.nodePorts ++ [⟨Ingress.nodePort, s.ingressPort⟩] }
      hooks := .ingress Ingress.manifestUrls :: s.hooks }
  else s

/-- The setup that is carried out in an environment. -/
def resolve (s : Setup) (env : Environment) : Setup := (s.inEnvironment env).withIngressParts

end Setup

end TestCluster
