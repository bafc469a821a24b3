import TestCluster.Yaml.Node.Grammar
import TestCluster.Yaml.Token.Stream

/-!
# YAML documents — the nodes at the top of a text, with their aliases settled

    A text holds any number of documents. Each but the first starts with its marker, and
    only a document with a marker may have directives. In a document every anchor gets a
    number, and an alias names the node that has its anchor's number.
-/

namespace TestCluster.Yaml

/-- A node whose aliases are numbers. -/
abbrev Node.Numbered := Node Nat

/-- A document: its node, unless the text is empty, the anchored nodes by number, and the
    number of its words. -/
structure Document where
  root : Option Node.Numbered
  anchored : List (Nat × Node.Numbered)
  words : Nat
  deriving Repr

namespace Document

/-- The anchors seen so far: their names with their numbers, and the anchored nodes, the one
    that starts last first. -/
structure Anchors where
  numbers : List (List Char × Nat) := []
  nodes : List (Nat × Node.Numbered) := []

/-- Gives an anchor a number: that of the names seen so far. A name that comes again keeps
    its place among them, so that the number may be given again. -/
def Anchors.name (name : List Char) (a : Anchors) : Anchors × Nat :=
  let number := a.numbers.length
  ({ a with numbers := (name, number) :: a.numbers.filter (·.1 != name) }, number)

/-- Puts a numbered node under its number, before the anchored nodes in it. -/
def Anchors.keep (number : Option Nat) (node : Node.Numbered) (inner : List (Nat × Node.Numbered))
    (before : Anchors) (after : Anchors) : Anchors :=
  match number with
  | none => { after with nodes := inner ++ before.nodes }
  | some n => { after with nodes := inner ++ (n, node) :: before.nodes }

/-- Numbers the anchor of a node, if it has one. -/
def Anchors.enter (label : Label) (a : Anchors) : Anchors × Option Nat :=
  match label.anchor with
  | none => (a, none)
  | some name => let (a, n) := a.name name; (a, some n)

mutual

/-- Settles the aliases of a node, in the order of the text. An alias has to come after its
    anchor, and may stand in the node that bears it. -/
def settle (a : Anchors) : Node.Named → Option (Node.Numbered × Anchors)
  | .alias name => (a.numbers.lookup name).map fun n => (.alias n, a)
  | .scalar label style text =>
    let (a, number) := a.enter label
    let node : Node.Numbered := .scalar label style text
    some (node, a.keep number node [] a)
  | .sequence label items => do
    let (entered, number) := a.enter label
    let (items, inner) ← settleItems { entered with nodes := [] } items
    let node : Node.Numbered := .sequence label items
    some (node, a.keep number node inner.nodes inner)
  | .mapping label members => do
    let (entered, number) := a.enter label
    let (members, inner) ← settleMembers { entered with nodes := [] } members
    let node : Node.Numbered := .mapping label members
    some (node, a.keep number node inner.nodes inner)

/-- Settles the aliases of nodes one after another. -/
def settleItems (a : Anchors) : List Node.Named → Option (List Node.Numbered × Anchors)
  | [] => some ([], a)
  | node :: nodes => do
    let (node, a) ← settle a node
    let (nodes, a) ← settleItems a nodes
    some (node :: nodes, a)

/-- Settles the aliases of keys and values one after another. -/
def settleMembers (a : Anchors) :
    List (Node.Named × Node.Named) →
      Option (List (Node.Numbered × Node.Numbered) × Anchors)
  | [] => some ([], a)
  | (key, value) :: members => do
    let (key, a) ← settle a key
    let (value, a) ← settle a value
    let (members, a) ← settleMembers a members
    some ((key, value) :: members, a)

end

/-- The document of a node; none if an alias names no anchor before it. -/
def ofNode (node : Node.Named) : Option Document :=
  (settle {} node).map fun (root, a) => ⟨some root, a.nodes, node.size⟩

/-- The document of an empty text. -/
def void : Document := ⟨none, [], 1⟩

/-- Whether the first token belongs to the start of a document that is announced. -/
def isAnnounced : List Token → Bool
  | .versionDirective .. :: _ => true
  | .tagDirective .. :: _ => true
  | .documentStart :: _ => true
  | _ => false

/-- Reads the directives of a document: at most one version, which has to be 1.1 or 1.2, and
    at most one meaning for each handle. -/
def directives (hasVersion : Bool) (handles : Handles) :
    List Token → Option (Handles × List Token)
  | .versionDirective major minor :: ts =>
    if !hasVersion && major == 1 && (minor == 1 || minor == 2) then directives true handles ts
    else none
  | .tagDirective handle start :: ts =>
    if handles.any (·.1 == handle) then none
    else directives hasVersion (handles ++ [(handle, start)]) ts
  | ts => some (handles ++ Handles.standard, ts)

/-- Whether a document that was announced says nothing. -/
def isBlankContent (ts : List Token) : Bool :=
  ts.isEmpty || isAnnounced ts || ts.head? == some .documentEnd

/-- Reads the node of a document that starts here, announced or not. -/
def content (ts : List Token) : Option (Node.Named × List Token) :=
  -- no node takes more than four steps for each of its tokens
  let fuel := 4 * ts.length + 4
  if isAnnounced ts then do
    let (handles, ts) ← directives false [] ts
    match ts with
    | .documentStart :: ts =>
      if isBlankContent ts then some (.empty, ts) else Node.read handles fuel .block ts
    | _ => none
  else Node.read Handles.standard fuel .block ts

/-- Reads documents to the end. Every document but the first has to be announced. -/
def nodes : (fuel : Nat) → (first : Bool) → List Token → Option (List Node.Named)
  | fuel, first, ts =>
    match ts, fuel with
    | [], _ => some []
    | _, 0 => none
    | ts, fuel + 1 => do
      if first || isAnnounced ts then
        let (node, ts) ← content ts
        let others ← nodes fuel false (ts.dropWhile (· == .documentEnd))
        some (node :: others)
      else none

/-- The documents of a text; an empty text is one that says nothing. -/
def all? (s : String) : Option (List Document) := do
  let ts ← Token.ofChars? s.toList
  let nodes ← nodes ts.length true ts
  if nodes.isEmpty then some [void] else nodes.mapM ofNode

/-- The document of a text that holds no more than one. -/
def single? (s : String) : Option Document :=
  match all? s with
  | some [document] => some document
  | _ => none

/-- The node that an alias names. -/
def anchored? (d : Document) (number : Nat) : Option Node.Numbered := d.anchored.lookup number

end Document

end TestCluster.Yaml
