import TestCluster.Api.Exchange
import TestCluster.Resource.Mapping

/-!
# Discovery — asking the server where a kind is stored

    The server lists the resources of a group and version. A kind is stored in the first one
    of that kind which is not a part of another resource, as the slash in its name would
    tell. A resource may belong to another group or version than its list.
-/

namespace TestCluster

/-- A resource as the server lists it. -/
structure ListedResource where
  group : Option String
  version : Option String
  kind : String
  name : String
  namespaced : Bool
  deriving DecidableEq, Repr

/-- The server's list of the resources of a group and version. -/
structure ResourceList where
  groupVersion : String
  resources : List ListedResource
  deriving DecidableEq, Repr

namespace ListedResource

/-- Reads a resource of a list. -/
def read (place : Json.Place) : Option ListedResource := do
  let f := Json.format
  let members ← f.members place
  let _ ← f.field members "categories" (f.list f.text)
  let group ← f.field members "group" f.text
  let kind ← f.field members "kind" f.text
  let name ← f.field members "name" f.text
  let namespaced ← f.field members "namespaced" f.bool
  let _ ← f.field members "shortNames" (f.list f.text)
  let _ ← f.field members "singularName" f.text
  let _ ← f.field members "storageVersionHash" f.text
  let _ ← f.field members "verbs" (f.list f.text)
  let version ← f.field members "version" f.text
  some ⟨group, version, kind.getD "", name.getD "", namespaced.getD false⟩

/-- Whether the resource is a part of another one. -/
def isPart (r : ListedResource) : Bool := r.name.toList.contains '/'

end ListedResource

namespace ResourceList

/-- Reads a text that has to be a given one. -/
def readExactly (expected : String) (place : Json.Place) : Option Unit :=
  match Json.format.text place with
  | some s => if s = expected then some () else none
  | none => none

/-- Reads a list of resources. Where it says what it is, that has to be right. -/
def read (place : Json.Place) : Option ResourceList := do
  let f := Json.format
  let members ← f.members place
  let _ ← Format.last members "apiVersion" (readExactly "v1")
  let _ ← Format.last members "kind" (readExactly "APIResourceList")
  let groupVersion ← f.field members "groupVersion" f.text
  let resources ← f.field members "resources" (f.list ListedResource.read)
  some ⟨groupVersion.getD "", resources.getD []⟩

/-- Reads a list of resources from JSON text. -/
def ofJson? (s : String) : Option ResourceList := Json.read (fun _ => read) s

/-- Where the list says that a kind is stored. Whether it is divided by namespaces is told by
    the first resource of that name. -/
def mapping? (list : ResourceList) (kind : String) : Option Mapping := do
  let r ← list.resources.find? fun r => r.kind == kind && !r.isPart
  let named ← list.resources.find? fun other => other.name == r.name
  let gv := GroupVersion.ofText list.groupVersion
  some ⟨⟨r.group.getD gv.group, r.version.getD gv.version, gv.text, r.kind, r.name⟩,
    named.namespaced⟩

end ResourceList

/-- Asks the server where a kind is stored. -/
def discover (kind : GroupVersionKind) : Program Api.exchange (Except ApiFault Mapping) :=
  match Api.Target.ofText (apiRoot kind.group kind.apiVersion) with
  | .error fault => .done (.error (.address fault))
  | .ok target => do
    match ← Api.send (.get target) with
    | .error fault => pure (.error fault)
    | .ok s =>
      match ResourceList.ofJson? s with
      | none => pure (.error .undecodable)
      | some list =>
        match list.mapping? kind.kind with
        | some mapping => pure (.ok mapping)
        | none => pure (.error (.missingKind kind))

end TestCluster
