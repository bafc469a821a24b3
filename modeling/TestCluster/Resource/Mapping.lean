import TestCluster.Resource.Kind

/-!
# Mappings — where the objects of a kind are stored

    The server stores the objects of a kind under a path of their own: below the path of
    their group and version and, if the kind is divided by namespaces, of their namespace.
-/

namespace TestCluster

/-- The resource that stores the objects of a kind. -/
structure Resource where
  group : String
  version : String
  /-- Group and version as they stand in paths. -/
  apiVersion : String
  kind : String
  plural : String
  deriving DecidableEq, Repr

/-- A kind's resource, and whether it is divided by namespaces. -/
structure Mapping where
  resource : Resource
  namespaced : Bool
  deriving DecidableEq, Repr

/-- The resource of a kind whose plural is known. -/
def Resource.ofKind (kind : GroupVersionKind) (plural : String) : Resource :=
  ⟨kind.group, kind.version, kind.apiVersion, kind.kind, plural⟩

/-- The path that leads to a group and version. -/
def apiRoot (group apiVersion : String) : String :=
  (if group = "" then "/api/" else "/apis/") ++ apiVersion

namespace Resource

/-- The path of a resource, within a namespace if one is given. -/
def path (r : Resource) (namespace_ : Option String) : String :=
  let division := match namespace_ with
    | some n => "namespaces/" ++ n ++ "/"
    | none => ""
  apiRoot r.group r.apiVersion ++ "/" ++ division ++ r.plural

/-- The path of one object. -/
def objectPath (r : Resource) (namespace_ : Option String) (name : String) : String :=
  r.path namespace_ ++ "/" ++ name

end Resource

end TestCluster
