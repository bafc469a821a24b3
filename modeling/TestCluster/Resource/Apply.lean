import TestCluster.Json.Printer
import TestCluster.Manifest
import TestCluster.Resource.Mappings

/-!
# Applying manifests — objects sent to the server one after another

    A manifest is read as a whole before anything is sent. Its objects are then sent in their
    order, each once its kind's mapping is known; the first failure ends the work. An object
    of a kind that is divided by namespaces goes to the namespace `default` if it names none.
-/

namespace TestCluster

/-- The name under which changes are made. -/
def fieldManager : String := "e2e-cluster"

/-- The namespace of objects that name none. -/
def defaultNamespace : String := "default"

namespace Object

/-- The object in a namespace: the one that it names, or the default one. -/
def inNamespace (o : Object) : Object :=
  let namespace_ := o.metadata.namespace_.getD defaultNamespace
  { o with metadata := { o.metadata with namespace_ := some namespace_ } }

/-- The object as a mapping wants it. -/
def placed (o : Object) (mapping : Mapping) : Object :=
  if mapping.namespaced then o.inNamespace else o

/-- The address to which an object is sent. Changes that others made are overruled. -/
def address (o : Object) (mapping : Mapping) : String :=
  let namespace_ := if mapping.namespaced then o.metadata.namespace_ else none
  mapping.resource.objectPath namespace_ o.name ++ "?&force=true&fieldManager=" ++ fieldManager

end Object

/-- Sends an object to its address, and gives the object that the server stores. -/
def sendObject (o : Object) (mapping : Mapping) : Program Api.exchange (Except ApiFault Object) :=
  match Api.Target.ofText (o.address mapping) with
  | .error fault => .done (.error (.address fault))
  | .ok target => do
    match ← Api.send (.patch target (Json.compact o.toValue)) with
    | .error fault => pure (.error fault)
    | .ok s =>
      match Object.ofJson? s with
      | some stored => pure (.ok stored)
      | none => pure (.error .undecodable)

/-- Applies one object; `index` is its place in its manifest. -/
def applyObject (m : Mappings) (index : Nat) (o : Object) :
    Program Api.exchange (Except Error Object × Mappings) :=
  match Manifest.groupVersionKind index o with
  | .error e => .done (.error e, m)
  | .ok kind => do
    match ← lookUp m kind with
    | (.error e, m) => pure (.error e, m)
    | (.ok mapping, m) =>
      match ← sendObject (o.placed mapping) mapping with
      | .error fault => pure (.error (.apply kind.kind o.name fault), m)
      | .ok stored => pure (.ok stored, m)

/-- Applies objects one after another, numbered from `index` on. -/
def applyObjects (m : Mappings) (index : Nat) :
    List Object → Program Api.exchange (Except Error (List Object) × Mappings)
  | [] => .done (.ok [], m)
  | o :: os => do
    match ← applyObject m index o with
    | (.error e, m) => pure (.error e, m)
    | (.ok stored, m) =>
      match ← applyObjects m (index + 1) os with
      | (.error e, m) => pure (.error e, m)
      | (.ok others, m) => pure (.ok (stored :: others), m)

/-- Applies the objects of a manifest, and gives them as the server stores them. -/
def apply (m : Mappings) (manifest : String) :
    Program Api.exchange (Except Error (List Object) × Mappings) :=
  match Manifest.parse manifest with
  | .error e => .done (.error e, m)
  | .ok objects => applyObjects m 0 objects

end TestCluster
