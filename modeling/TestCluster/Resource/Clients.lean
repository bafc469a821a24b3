import TestCluster.Resource.Apply

/-!
# Clients — several users of one server

    A copy of a client remembers what the client remembers, and the other way round: clients
    that are copies of one another are a family, and a family shares one memory. A new client
    starts a family of its own.
-/

namespace TestCluster

/-- Clients, each a member of a family. -/
structure Clients where
  /-- What each family remembers. -/
  memories : List Mappings
  /-- The family of each client. -/
  families : List Nat
  deriving Repr

/-- What can be done with a client. -/
inductive ClientStep
  | apply (manifest : String)
  | lookUp (kind : GroupVersionKind)
  | register (kind : GroupVersionKind) (mapping : Mapping)
  | forget
  /-- Makes a copy of the client. -/
  | copy
  /-- Makes a new client. -/
  | fresh
  deriving Repr

/-- What a step gives. -/
inductive ClientResult
  | objects (stored : Except Error (List Object))
  | mapping (found : Except Error Mapping)
  | nothing

namespace Clients

/-- One client that remembers nothing. -/
def single : Clients := ⟨[{}], [0]⟩

/-- The family of a client. -/
def family (c : Clients) (client : Nat) : Nat := c.families.getD client 0

/-- What a client remembers. -/
def memory (c : Clients) (client : Nat) : Mappings := c.memories.getD (c.family client) {}

/-- The clients after one of them remembers something else. -/
def remember (c : Clients) (client : Nat) (m : Mappings) : Clients :=
  { c with memories := c.memories.set (c.family client) m }

/-- The clients with a copy of one of them. -/
def copy (c : Clients) (client : Nat) : Clients :=
  { c with families := c.families ++ [c.family client] }

/-- The clients with a new one. -/
def fresh (c : Clients) : Clients :=
  ⟨c.memories ++ [({} : Mappings)], c.families ++ [c.memories.length]⟩

/-- How many mappings each client remembers. -/
def sizes (c : Clients) : List Nat := c.families.map fun f => (c.memories.getD f {}).size

/-- Does one step with a client. -/
def step (c : Clients) (client : Nat) :
    ClientStep → Program Api.exchange (ClientResult × Clients)
  | .apply manifest => do
    let (stored, m) ← TestCluster.apply (c.memory client) manifest
    pure (.objects stored, c.remember client m)
  | .lookUp kind => do
    let (found, m) ← TestCluster.lookUp (c.memory client) kind
    pure (.mapping found, c.remember client m)
  | .register kind mapping =>
    .done (.nothing, c.remember client ((c.memory client).insert kind.mappingKey mapping))
  | .forget => .done (.nothing, c.remember client {})
  | .copy => .done (.nothing, c.copy client)
  | .fresh => .done (.nothing, c.fresh)

end Clients

end TestCluster
