import TestCluster.Yaml.Token

/-!
# YAML nodes — a document as a tree of scalars, sequences, mappings and aliases

    Any node but an alias may carry an anchor, by which aliases name it, and a tag, which says
    what it is. How an alias names its node is left open: by the anchor's name as it is
    written, or by a number once the names are settled.
-/

namespace TestCluster.Yaml

/-- What is said about a node in front of it. -/
structure Label where
  anchor : Option (List Char) := none
  tag : Option (List Char) := none
  deriving DecidableEq, Repr

/-- A node of a document, with aliases that are references of type `R`. -/
inductive Node (R : Type)
  | scalar (label : Label) (style : ScalarStyle) (text : List Char)
  | sequence (label : Label) (items : List (Node R))
  | mapping (label : Label) (members : List (Node R × Node R))
  | alias (reference : R)
  deriving Repr

namespace Node

variable {R : Type}

/-- The node where nothing is written. -/
def empty : Node R := .scalar {} .plain []

/-- The anchor of a node. -/
def anchor? : Node R → Option (List Char)
  | .scalar label .. => label.anchor
  | .sequence label _ => label.anchor
  | .mapping label _ => label.anchor
  | .alias _ => none

/-- How many words a document needs to say a node: one for a scalar or an alias, two for a
    collection, and those of the nodes in it. -/
def size : Node R → Nat
  | .scalar .. => 1
  | .alias _ => 1
  | .sequence _ items => 2 + sizeItems items
  | .mapping _ members => 2 + sizeMembers members
where
  sizeItems : List (Node R) → Nat
    | [] => 0
    | n :: ns => n.size + sizeItems ns
  sizeMembers : List (Node R × Node R) → Nat
    | [] => 0
    | (k, v) :: ns => k.size + v.size + sizeMembers ns

end Node

end TestCluster.Yaml
