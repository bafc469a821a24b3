import TestCluster.Format
import TestCluster.Json.Reader

/-!
# JSON as a document format

    JSON is read strictly: a text is a string, a number a number. Null stands for an absent
    value and for nothing else. A record may be an array of its values.
-/

namespace TestCluster.Json

/-- How deep a value of unknown shape may be nested before it is refused. -/
def depthLimit : Nat := 127

/-- A place in a tree: the tree there, and how many arrays and objects are around it. -/
structure Place where
  tree : Tree
  level : Nat
  deriving Repr

namespace Place

/-- The text of a string. -/
def text? (p : Place) : Option String :=
  match p.tree with
  | .string s => s
  | _ => none

/-- The number of a numeral without sign, fraction and exponent, if it is below the bound. -/
def natBelow? (bound : Nat) (p : Place) : Option Nat :=
  match p.tree with
  | .number n => n.nat?.filter (· < bound)
  | _ => none

/-- The integer of a numeral without fraction and exponent, if it has 64 bits. -/
def int64? (p : Place) : Option Int :=
  match p.tree with
  | .number n => n.int?.filter fun i => -(twoTo 63 : Int) ≤ i ∧ i < twoTo 63
  | _ => none

/-- The value of a switch. -/
def bool? (p : Place) : Option Bool :=
  match p.tree with
  | .bool b => some b
  | _ => none

/-- The place itself, unless a null is there. -/
def optional (p : Place) : Option Place :=
  match p.tree with
  | .null => none
  | _ => some p

/-- The items of an array. -/
def items? (p : Place) : Option (List Place) :=
  match p.tree with
  | .array items => some (items.map fun t => ⟨t, p.level + 1⟩)
  | _ => none

/-- The members of an object, if all its keys are texts. -/
def members? (p : Place) : Option (List (String × Place)) :=
  match p.tree with
  | .object members => members.mapM fun (k, t) => k.map (·, ⟨t, p.level + 1⟩)
  | _ => none

/-- The fields of a record. -/
def fields? (p : Place) : Option (List Place ⊕ List (String × Place)) :=
  match p.tree with
  | .array _ => p.items?.map .inl
  | _ => p.members?.map .inr

/-- Any value that is not nested too deep. -/
def value? (p : Place) : Option Value :=
  if depthLimit < p.level + p.tree.depth then none else p.tree.value?

end Place

/-- The readers of JSON trees. -/
def format : TestCluster.Format Option Place where
  text := Place.text?
  natBelow := Place.natBelow?
  int64 := Place.int64?
  bool := Place.bool?
  optional p := some p.optional
  items := Place.items?
  members := Place.members?
  fields := Place.fields?
  value := Place.value?
  openValue := Place.value?
  refuse := none

/-- Reads what a JSON text holds. -/
def read {α : Type} (reader : TestCluster.Format Option Place → Place → Option α) (s : String) :
    Option α := do
  let tree ← ofText? s
  reader format ⟨tree, 0⟩

end TestCluster.Json
