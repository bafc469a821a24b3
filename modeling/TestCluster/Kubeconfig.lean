import TestCluster.Text.Utf8
import TestCluster.World
import TestCluster.Yaml.Format

/-!
# Kubeconfigs — which server a client talks to

    A kubeconfig lists clusters, users and contexts by name. The current context names a
    cluster and a user, both of which have to be there, and may name a namespace. A text may
    hold several kubeconfigs: what an earlier one says goes before what a later one says.
-/

namespace TestCluster

/-- What a client has to know: the address of its server, and its namespace. -/
structure ClientConfig where
  server : String
  namespace_ : String
  deriving DecidableEq, Repr

namespace Kubeconfig

/-- What a context names. -/
structure Context where
  cluster : String
  user : String
  namespace_ : Option String
  deriving DecidableEq, Repr

end Kubeconfig

/-- What a kubeconfig lists. A name without anything behind it counts as a name. -/
structure Kubeconfig where
  /-- The address of the server of each cluster. -/
  clusters : List (String × Option (Option String)) := []
  users : List (String × Option Unit) := []
  contexts : List (String × Option Kubeconfig.Context) := []
  currentContext : Option String := none
  kind : Option String := none
  apiVersion : Option String := none
  deriving DecidableEq, Repr

namespace Kubeconfig

open Yaml (Place Reading)

/-- A reader of one kind of thing in a YAML document. -/
abbrev Reader (α : Type) := Format Reading Place → Place → Reading α

/-- Reads a text that is written as one. -/
def text : Reader String := fun f node => do
  match ← f.value node with
  | .string s => pure s
  | _ => f.refuse

/-- Reads a member that may be absent or null. -/
def member {α : Type} (f : Format Reading Place) (members : List (String × Place)) (key : String)
    (read : Place → Reading α) : Reading (Option α) :=
  f.once members key (f.nullable read) (pure none)

/-- Reads a name, and what stands behind it under a key. -/
def named {α : Type} (key : String) (read : Reader α) : Reader (String × Option α) := fun f node => do
  let members ← f.members node
  let name ← f.once members "name" (text f) f.refuse
  pure (name, ← member f members key (read f))

/-- Reads the address of a cluster's server. -/
def readCluster : Reader (Option String) := fun f node => do
  let members ← f.members node
  let _ ← member f members "insecure-skip-tls-verify" f.bool
  member f members "server" (text f)

/-- Reads a user, of whom nothing has to be known. -/
def readUser : Reader Unit := fun f node => do
  let members ← f.members node
  for key in ["username", "password", "token", "tokenFile", "client-certificate",
      "client-certificate-data", "client-key", "client-key-data"] do
    let _ ← member f members key (text f)

/-- Reads what a context names. -/
def readContext : Reader Context := fun f node => do
  let members ← f.members node
  let cluster ← f.once members "cluster" (text f) f.refuse
  let user ← f.once members "user" (text f) f.refuse
  let namespace_ ← member f members "namespace" (text f)
  pure { cluster, user, namespace_ }

/-- Reads a kubeconfig. -/
def read : Reader Kubeconfig := fun f node => do
  let members ← f.members node
  let list {α : Type} (key : String) (read : Reader α) : Reading (List α) :=
    (·.getD []) <$> member f members key (f.list (read f))
  let clusters ← list "clusters" (named "cluster" readCluster)
  let users ← list "users" (named "user" readUser)
  let contexts ← list "contexts" (named "context" readContext)
  let currentContext ← member f members "current-context" (text f)
  let kind ← member f members "kind" (text f)
  let apiVersion ← member f members "apiVersion" (text f)
  pure { clusters, users, contexts, currentContext, kind, apiVersion }

/-- Whether two texts do not contradict one another. -/
def agree (a b : Option String) : Bool := a.isNone || b.isNone || a == b

/-- Two kubeconfigs as one. They must not differ in what they say they are. -/
def merge (a b : Kubeconfig) : Option Kubeconfig :=
  if agree a.kind b.kind && agree a.apiVersion b.apiVersion then
    some {
      clusters := a.clusters ++ b.clusters, users := a.users ++ b.users
      contexts := a.contexts ++ b.contexts
      currentContext := a.currentContext <|> b.currentContext
      kind := a.kind <|> b.kind, apiVersion := a.apiVersion <|> b.apiVersion }
  else none

/-- Several kubeconfigs as one. -/
def mergeAll (configs : List Kubeconfig) : Option Kubeconfig := configs.foldlM merge {}

/-- Reads the kubeconfigs of a text. -/
def ofText? (s : String) : Option Kubeconfig := do
  mergeAll (← (← Yaml.Document.all? s).mapM (Yaml.Document.read read))

/-- Reads the kubeconfigs in the bytes of a file. -/
def ofBytes? (bytes : List UInt8) : Option Kubeconfig := (Text.decode? bytes).bind ofText?

/-- Whether a text may be the address of a server. -/
def isServerAddress (s : String) : Bool :=
  s != "" && (s.toList.takeWhile (· != '?')).all Api.Target.isPathChar

/-- What a client has to know, as the current context says it. -/
def client? (k : Kubeconfig) : Option ClientConfig := do
  let context ← (← k.contexts.lookup (← k.currentContext))
  let server ← (← (← k.clusters.lookup context.cluster))
  let _ ← (← k.users.lookup context.user)
  if isServerAddress server then some ⟨server, context.namespace_.getD "default"⟩ else none

end Kubeconfig

namespace ClientConfig

/-- Finds out from a kubeconfig file which server a client talks to. -/
def ofFile (path : String) : Attempt World.calls ClientConfig := do
  match ← World.host (.readFile path) with
  | .error _ => throw .kubeconfig
  | .ok bytes =>
    match (Kubeconfig.ofBytes? bytes).bind Kubeconfig.client? with
    | some config => pure config
    | none => throw .kubeconfig

/-- Reads the kubeconfigs of several files as one. -/
def readAll : List String → Program World.calls (Option (List Kubeconfig))
  | [] => pure (some [])
  | path :: paths => do
    match ← World.host (.readFile path) with
    | .error _ => pure none
    | .ok bytes =>
      match Kubeconfig.ofBytes? bytes with
      | none => pure none
      | some config => do
        let others ← readAll paths
        pure (others.map (config :: ·))

/-- Finds out from the kubeconfig files that the environment names which server a client talks
    to. -/
def ofFiles (paths : List String) : Attempt World.calls ClientConfig := do
  match (← readAll paths).bind fun configs => (Kubeconfig.mergeAll configs).bind Kubeconfig.client? with
  | some config => pure config
  | none => throw (.client .unconfigured)

end ClientConfig

end TestCluster
