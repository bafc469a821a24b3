import TestCluster.CommandError
import TestCluster.Program

/-!
# Providers — what runs clusters and keeps images

    Clusters are brought up and torn down by a provider, and images are fetched and saved by
    an image tool. Both are outside this library: each call to them is answered by a result or
    by the failure of a command.
-/

namespace TestCluster

/-- All that a provider has to know to bring a cluster up. -/
structure CreateRequest where
  name : String
  /-- The document that describes the cluster. -/
  config : String
  nodeImage : Option String
  /-- How many seconds to wait for the cluster to be ready. -/
  waitSeconds : Option UInt64
  kubeconfig : String
  deriving DecidableEq, Repr

namespace Provider

/-- A call to a provider. -/
inductive Call
  | create (request : CreateRequest)
  | delete (cluster kubeconfig : String)
  | list
  | exportKubeconfig (cluster path : String)
  | nodes (cluster : String)
  | load (cluster node archive : String)
  deriving DecidableEq, Repr

/-- What a call gives when it succeeds. -/
def Result : Call → Type
  | .list | .nodes _ => List String
  | .create _ | .delete .. | .exportKubeconfig .. | .load .. => Unit

/-- The calls to a provider, with their answers. -/
def calls : Interface := ⟨Call, fun c => Except CommandError (Result c)⟩

end Provider

namespace ImageTool

/-- A call to an image tool. -/
inductive Call
  | exists_ (image : String)
  | pull (image : String)
  | save (images : List String) (archive : String)
  deriving DecidableEq, Repr

/-- What a call gives when it succeeds. -/
def Result : Call → Type
  | .exists_ _ => Bool
  | .pull _ | .save .. => Unit

/-- The calls to an image tool, with their answers. -/
def calls : Interface := ⟨Call, fun c => Except CommandError (Result c)⟩

end ImageTool

end TestCluster
