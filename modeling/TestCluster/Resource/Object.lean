import TestCluster.Json.Format
import TestCluster.Resource.Kind
import TestCluster.Resource.Metadata
import TestCluster.Yaml.Format

/-!
# Objects — what a cluster stores

    An object names its kind, says something of itself, and holds members of its own, about
    which nothing is known here. It is written as one mapping of all of these.
-/

namespace TestCluster

/-- How an object names its kind. -/
structure Types where
  apiVersion : String
  kind : String
  deriving DecidableEq, Repr

/-- The kind that the names stand for. -/
def Types.groupVersionKind (t : Types) : GroupVersionKind := .ofTypes t.apiVersion t.kind

/-- An object of any kind. -/
structure Object where
  types : Option Types
  metadata : Metadata
  /-- The members that are neither types nor metadata. -/
  content : List (String × Value)
  deriving Repr

namespace Object

/-- Takes the two names of the kind out of the members. Both have to be texts and to come
    once; at the first one that does not, the members from there on stay as they are. -/
def takeTypes (apiVersion kind : Option String) :
    List (String × Value) → Option Types × List (String × Value)
  | [] =>
    match apiVersion, kind with
    | some apiVersion, some kind => (some ⟨apiVersion, kind⟩, [])
    | _, _ => (none, [])
  | (key, value) :: members =>
    if key = "apiVersion" then
      match apiVersion, value with
      | none, .string s => takeTypes (some s) kind members
      | _, _ => (none, members)
    else if key = "kind" then
      match kind, value with
      | none, .string s => takeTypes apiVersion (some s) members
      | _, _ => (none, members)
    else
      let (types, others) := takeTypes apiVersion kind members
      (types, (key, value) :: others)

variable {m : Type → Type} [Monad m] {N : Type}

/-- Reads an object. -/
def read (f : Format m N) (node : N) : m Object := do
  let members ← f.members node
  let metadata ← f.once members "metadata" (Metadata.read f) (pure {})
  let others ← (members.filter (·.1 != "metadata")).mapM fun (k, v) => do pure (k, ← f.value v)
  let (types, content) := takeTypes none none others
  pure ⟨types, metadata, Members.ofList content⟩

/-- Reads an object from YAML text, which holds no more than one document. -/
def ofYaml? (s : String) : Option Object := (Yaml.Document.single? s).bind (Yaml.Document.read read)

/-- Reads an object from JSON text. -/
def ofJson? (s : String) : Option Object := Json.read read s

/-- The object as a value. -/
def toValue (o : Object) : Value :=
  let types := match o.types with
    | some t => [("apiVersion", .string t.apiVersion), ("kind", .string t.kind)]
    | none => []
  .object (types ++ ("metadata", o.metadata.toValue) :: o.content)

/-- The object's name; empty if it has none. -/
def name (o : Object) : String := o.metadata.name.getD ""

end Object

end TestCluster
