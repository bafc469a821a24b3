import TestCluster.Format
import TestCluster.Yaml.Document
import TestCluster.Yaml.Scalar

/-!
# YAML as a document format

    YAML is read leniently: any scalar is a text where a text is wanted, and nothing at all is
    an empty list, an empty mapping or an absent value. Collections may be nested 128 deep,
    and following an alias counts: a document may not have more aliases followed than a
    hundred times its words, which keeps a small text from standing for a large value.
-/

namespace TestCluster.Yaml

/-- How deep collections may be nested. -/
def depthLimit : Nat := 128

/-- What a reader does while it counts the aliases that it may still follow. -/
abbrev Reading := StateT Nat Option

/-- A place in a document: the node there, unless the document is empty, and how many
    collections may still be nested in one another there. -/
structure Place where
  node : Option Node.Numbered
  room : Nat
  deriving Repr

/-- The tags of the kinds of scalar that a text can spell. -/
def coreTag (name : String) : List Char := "tag:yaml.org,2002:".toList ++ name.toList

/-- Whether a tag is a document's own, which says nothing of the kinds known here. -/
def isLocal (tag : List Char) : Bool := tag.head? == some '!'

namespace Document

/-- Where the text at a place is, following an alias. -/
def follow (d : Document) (place : Place) : Reading Place := do
  match place.node with
  | some (.alias n) =>
    match ← get, d.anchored? n with
    | left + 1, some node => do
      set left
      pure { place with node := some node }
    | _, _ => failure
  | _ => pure place

/-- The places in a collection. -/
def inside (place : Place) : Reading (Node.Numbered → Place) :=
  match place.room with
  | 0 => failure
  | room + 1 => pure fun node => ⟨some node, room⟩

/-- The text of any scalar. -/
def text (d : Document) (place : Place) : Reading String := do
  match (← d.follow place).node with
  | some (.scalar _ _ text) => pure (String.ofList text)
  | _ => failure

/-- Whether nothing is written at a place. -/
def isNothing (place : Place) : Bool :=
  match place.node with
  | none => true
  | some (.scalar _ .plain []) => true
  | _ => false

/-- The text of a scalar that may be read as a kind of value: one that is plain, or a literal
    with the kind's tag. -/
def spelling (d : Document) (kind : String) (place : Place) : Reading String := do
  match (← d.follow place).node with
  | some (.scalar label style text) =>
    if style = .plain ∨ (style = .literal ∧ label.tag = some (coreTag kind)) then
      pure (String.ofList text)
    else failure
  | _ => failure

/-- The place itself, unless a null is there. -/
def optional (d : Document) (place : Place) : Reading (Option Place) := do
  let place ← d.follow place
  match place.node with
  | none => pure none
  | some (.scalar label .plain text) =>
    let spelled := Scalar.isNull (String.ofList text)
    match label.tag with
    | none => pure (if text.isEmpty || spelled then none else some place)
    | some tag =>
      if tag = coreTag "null" then if spelled then pure none else failure
      else pure (some place)
  | some _ => pure (some place)

/-- The items of a sequence. -/
def items (d : Document) (place : Place) : Reading (List Place) := do
  let place ← d.follow place
  match place.node with
  | some (.sequence _ nodes) => pure (nodes.map (← inside place))
  | _ => if isNothing place then pure [] else failure

/-- The members of a mapping. -/
def members (d : Document) (place : Place) : Reading (List (String × Place)) := do
  let place ← d.follow place
  match place.node with
  | some (.mapping _ nodes) =>
    let at_ ← inside place
    nodes.mapM fun (key, value) => do pure (← d.text (at_ key), at_ value)
  | _ => if isNothing place then pure [] else failure

/-- The value of a scalar. A tag of a known kind has to fit its text, and a local tag names no
    kind at all. -/
def scalarValue (label : Label) (style : ScalarStyle) (chars : List Char) : Option Value :=
  let s := String.ofList chars
  match label.tag with
  | none => if style = .plain then Scalar.value? s else some (.string s)
  | some tag =>
    if isLocal tag then none
    else if tag = coreTag "bool" then (Scalar.bool? s).map .bool
    else if tag = coreTag "int" then (Scalar.integer? s).join.map .int
    else if tag = coreTag "float" then (Scalar.float? s).map Scalar.floatValue
    else if tag = coreTag "null" then if Scalar.isNull s then some .null else none
    else some (.string s)

/-- The value of a scalar, which has to be one. -/
def scalar (label : Label) (style : ScalarStyle) (chars : List Char) : Reading Value :=
  match scalarValue label style chars with
  | some v => pure v
  | none => failure

/-- The text of a key. `loose` tells whether every scalar may be one; otherwise its value has to
    be a text. -/
def keyText (d : Document) (loose : Bool) (room : Nat) (valueOf : Node.Numbered → Reading Value)
    (key : Node.Numbered) : Reading String := do
  if loose then d.text ⟨some key, room⟩
  else
    match ← valueOf key with
    | .string s => pure s
    | _ => failure

/-- Any value. -/
def valueAt (d : Document) (loose : Bool) : (room : Nat) → Node.Numbered → Reading Value
  | 0, node => do
    match (← d.follow ⟨some node, 0⟩).node with
    | none => pure .null
    | some (.scalar label style text) => scalar label style text
    | some _ => failure
  | room + 1, node => do
    match (← d.follow ⟨some node, room + 1⟩).node with
    | none => pure .null
    | some (.scalar label style text) => scalar label style text
    | some (.sequence label nodes) =>
      if label.tag.any isLocal then failure
      else .array <$> nodes.mapM (valueAt d loose room)
    | some (.mapping label nodes) =>
      if label.tag.any isLocal then failure
      else
        let members ← nodes.mapM fun (key, value) => do
          pure (← d.keyText loose room (valueAt d loose room) key, ← valueAt d loose room value)
        pure (.object (Members.ofList members))
    | some (.alias _) => failure

/-- Any value at a place. -/
def value (d : Document) (loose : Bool) (place : Place) : Reading Value :=
  match place.node with
  | none => pure .null
  | some node => d.valueAt loose place.room node

/-- The readers of a document's places. A record is a mapping. -/
def format (d : Document) : Format Reading Place where
  text := d.text
  natBelow bound place := do
    match Scalar.nat? UInt64.size (← d.spelling "int" place) with
    | some n => if n < bound then pure n else failure
    | none => failure
  int64 place := do
    match Scalar.int? 64 (← d.spelling "int" place) with
    | some i => pure i
    | none => failure
  bool place := do
    match Scalar.bool? (← d.spelling "bool" place) with
    | some b => pure b
    | none => failure
  optional := d.optional
  items := d.items
  members := d.members
  fields place := .inr <$> d.members place
  value := d.value false
  openValue := d.value true
  refuse := failure

/-- Reads what a document holds with one of its readers. -/
def read {α : Type} (reader : Format Reading Place → Place → Reading α) (d : Document) :
    Option α :=
  (reader d.format ⟨d.root, depthLimit⟩ (100 * d.words)).map (·.1)

end Document

end TestCluster.Yaml
