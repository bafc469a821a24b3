import TestCluster.Error
import TestCluster.Resource.Discovery

/-!
# Known mappings — what a client remembers of discovery

    A client asks the server about a kind once and remembers the answer under the kind's
    `apiVersion` and name. Only answers are remembered: after a failure the next look-up asks
    again.
-/

namespace TestCluster

/-- What mappings are remembered under: an `apiVersion` and the name of a kind. -/
structure MappingKey where
  apiVersion : String
  kind : String
  deriving DecidableEq, Repr

/-- What the mapping of a kind is remembered under. -/
def GroupVersionKind.mappingKey (k : GroupVersionKind) : MappingKey := ⟨k.apiVersion, k.kind⟩

/-- The mappings that a client remembers, each under one key. -/
structure Mappings where
  entries : List (MappingKey × Mapping) := []
  deriving Repr

namespace Mappings

/-- The mapping under a key. -/
def get? (m : Mappings) (key : MappingKey) : Option Mapping := m.entries.lookup key

/-- Remembers a mapping under a key, instead of the one before it. -/
def insert (m : Mappings) (key : MappingKey) (mapping : Mapping) : Mappings :=
  ⟨(key, mapping) :: m.entries.filter (·.1 != key)⟩

/-- How many mappings are remembered. -/
def size (m : Mappings) : Nat := m.entries.length

end Mappings

/-- Finds where a kind is stored, from memory or else from the server. -/
def lookUp (m : Mappings) (kind : GroupVersionKind) :
    Program Api.exchange (Except Error Mapping × Mappings) :=
  match m.get? kind.mappingKey with
  | some mapping => .done (.ok mapping, m)
  | none => do
    match ← discover kind with
    | .error fault => pure (.error (.unknownKind kind.apiVersion kind.kind fault), m)
    | .ok mapping => pure (.ok mapping, m.insert kind.mappingKey mapping)

end TestCluster
