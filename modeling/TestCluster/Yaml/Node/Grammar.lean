import TestCluster.Yaml.Node

/-!
# The grammar of nodes — which rows of tokens are a node

    A node is read off the front of a row of tokens. Where nothing is written a node may
    still be meant: after a dash, after the announcement of a key, after a colon.
-/

namespace TestCluster.Yaml

/-- What the handles of tags stand for: each handle with the start of the tags it is short
    for. -/
abbrev Handles := List (List Char × List Char)

namespace Handles

/-- What the two common handles stand for, unless a document says otherwise. -/
def standard : Handles := [(['!'], ['!']), (['!', '!'], "tag:yaml.org,2002:".toList)]

/-- The full tag of a handle and a suffix, if the handle is known. -/
def tag? (handles : Handles) (handle suffix : List Char) : Option (List Char) :=
  if handle.isEmpty then some suffix else (handles.lookup handle).map (· ++ suffix)

end Handles

namespace Node

/-- A node whose aliases name anchors. -/
abbrev Named := Node (List Char)

/-- Reads what is said about a node in front of it: an anchor and a tag, in either order. -/
def label (handles : Handles) : List Token → Option (Label × List Token)
  | .anchor name :: .tag handle suffix :: ts =>
    (handles.tag? handle suffix).map fun tag => (⟨some name, some tag⟩, ts)
  | .tag handle suffix :: .anchor name :: ts =>
    (handles.tag? handle suffix).map fun tag => (⟨some name, some tag⟩, ts)
  | .anchor name :: ts => some (⟨some name, none⟩, ts)
  | .tag handle suffix :: ts => (handles.tag? handle suffix).map fun tag => (⟨none, some tag⟩, ts)
  | ts => some ({}, ts)

/-- The empty scalar that a label alone stands for; without a label there is no node. -/
def bare (label : Label) (ts : List Token) : Option (Named × List Token) :=
  if label = {} then none else some (.scalar label .plain [], ts)

/-- Where a node stands, which decides what it may be. -/
inductive Place
  /-- In a flow collection: no block collection. -/
  | flow
  /-- In a sequence of a block, or at the top. -/
  | block
  /-- In a mapping of a block: a sequence may stand at the mapping's own column. -/
  | member
  deriving DecidableEq, Repr

/-- Whether the first token is one of those that leave a place in a block empty. -/
def leavesEmpty (atDash atKey : Bool) : List Token → Bool
  | .blockEnd :: _ => true
  | .blockEntry :: _ => atDash
  | .key :: _ => atKey
  | .value :: _ => atKey
  | _ => false

/-- Whether the first token ends an entry of a flow collection. -/
def endsFlowEntry (closing : Token) : List Token → Bool
  | t :: _ => t == .flowEntry || t == closing
  | [] => false

mutual

/-- Reads a node. `fuel` bounds the steps. -/
def read (handles : Handles) (fuel : Nat) (place : Place) (ts : List Token) :
    Option (Named × List Token) :=
  match fuel with
  | 0 => none
  | fuel + 1 =>
    match ts with
    | .alias name :: ts => some (.alias name, ts)
    | _ =>
      match label handles ts with
      | none => none
      | some (label, ts) =>
        match ts with
        | .scalar style text :: ts => some (.scalar label style text, ts)
        | .flowSequenceStart :: ts =>
          (flowItems handles fuel true ts).map fun (items, ts) => (.sequence label items, ts)
        | .flowMappingStart :: ts =>
          (flowMembers handles fuel true ts).map fun (members, ts) => (.mapping label members, ts)
        | .blockSequenceStart :: ts =>
          if place = .flow then bare label (.blockSequenceStart :: ts)
          else (blockItems handles fuel ts).map fun (items, ts) => (.sequence label items, ts)
        | .blockMappingStart :: ts =>
          if place = .flow then bare label (.blockMappingStart :: ts)
          else (blockMembers handles fuel ts).map fun (members, ts) => (.mapping label members, ts)
        | .blockEntry :: _ =>
          if place = .member then
            (flatItems handles fuel ts).map fun (items, ts) => (.sequence label items, ts)
          else bare label ts
        | _ => bare label ts

/-- Reads a node, or the empty node where nothing is written. -/
def readUnless (handles : Handles) (fuel : Nat) (isEmpty : Bool) (place : Place)
    (ts : List Token) : Option (Named × List Token) :=
  match fuel with
  | 0 => none
  | fuel + 1 => if isEmpty then some (.empty, ts) else read handles fuel place ts

/-- Reads the entries of a block sequence, and its end. -/
def blockItems (handles : Handles) (fuel : Nat) (ts : List Token) :
    Option (List Named × List Token) :=
  match fuel with
  | 0 => none
  | fuel + 1 =>
    match ts with
    | .blockEnd :: ts => some ([], ts)
    | .blockEntry :: ts => do
      let (item, ts) ← readUnless handles fuel (leavesEmpty true false ts) .block ts
      let (items, ts) ← blockItems handles fuel ts
      some (item :: items, ts)
    | _ => none

/-- Reads the entries of a sequence that stands at the column of the mapping it is in. What
    comes after them is the mapping's. -/
def flatItems (handles : Handles) (fuel : Nat) (ts : List Token) :
    Option (List Named × List Token) :=
  match fuel with
  | 0 => none
  | fuel + 1 =>
    match ts with
    | .blockEntry :: ts => do
      let (item, ts) ← readUnless handles fuel (leavesEmpty true true ts) .block ts
      let (items, ts) ← flatItems handles fuel ts
      some (item :: items, ts)
    | _ => some ([], ts)

/-- Reads the members of a block mapping, and its end. -/
def blockMembers (handles : Handles) (fuel : Nat) (ts : List Token) :
    Option (List (Named × Named) × List Token) :=
  match fuel with
  | 0 => none
  | fuel + 1 =>
    match ts with
    | .blockEnd :: ts => some ([], ts)
    | .key :: ts => do
      let (key, ts) ← readUnless handles fuel (leavesEmpty false true ts) .member ts
      let (value, ts) ← blockValue handles fuel ts
      let (members, ts) ← blockMembers handles fuel ts
      some ((key, value) :: members, ts)
    | _ => none

/-- Reads the value after a key of a block mapping. -/
def blockValue (handles : Handles) (fuel : Nat) (ts : List Token) :
    Option (Named × List Token) :=
  match fuel with
  | 0 => none
  | fuel + 1 =>
    match ts with
    | .value :: ts => readUnless handles fuel (leavesEmpty false true ts) .member ts
    | _ => some (.empty, ts)

/-- Reads the entries of a flow sequence, and its end. `first` tells whether no entry came
    yet, so that no comma has to. -/
def flowItems (handles : Handles) (fuel : Nat) (first : Bool) (ts : List Token) :
    Option (List Named × List Token) :=
  match fuel with
  | 0 => none
  | fuel + 1 =>
    match ts with
    | .flowSequenceEnd :: ts => some ([], ts)
    | _ => do
      let ts ← if first then some ts else match ts with
        | .flowEntry :: ts => some ts
        | _ => none
      match ts with
      | .flowSequenceEnd :: ts => some ([], ts)
      | .key :: ts => do
        let (pair, ts) ← flowPair handles fuel ts
        let (items, ts) ← flowItems handles fuel false ts
        some (.mapping {} [pair] :: items, ts)
      | ts => do
        let (item, ts) ← read handles fuel .flow ts
        let (items, ts) ← flowItems handles fuel false ts
        some (item :: items, ts)

/-- Reads a key and a value that stand in a flow sequence without braces. Where the key is
    empty, what ends it is dropped with it. -/
def flowPair (handles : Handles) (fuel : Nat) (ts : List Token) :
    Option ((Named × Named) × List Token) :=
  match fuel with
  | 0 => none
  | fuel + 1 => do
    let (key, ts) ←
      if ts.head? = some .value || endsFlowEntry .flowSequenceEnd ts then some (.empty, ts.drop 1)
      else read handles fuel .flow ts
    let (value, ts) ← flowValue handles fuel .flowSequenceEnd ts
    some ((key, value), ts)

/-- Reads the value after a key of a flow collection. -/
def flowValue (handles : Handles) (fuel : Nat) (closing : Token) (ts : List Token) :
    Option (Named × List Token) :=
  match fuel with
  | 0 => none
  | fuel + 1 =>
    match ts with
    | .value :: ts => readUnless handles fuel (endsFlowEntry closing ts) .flow ts
    | _ => some (.empty, ts)

/-- Reads the members of a flow mapping, and its end. -/
def flowMembers (handles : Handles) (fuel : Nat) (first : Bool) (ts : List Token) :
    Option (List (Named × Named) × List Token) :=
  match fuel with
  | 0 => none
  | fuel + 1 =>
    match ts with
    | .flowMappingEnd :: ts => some ([], ts)
    | _ => do
      let ts ← if first then some ts else match ts with
        | .flowEntry :: ts => some ts
        | _ => none
      match ts with
      | .flowMappingEnd :: ts => some ([], ts)
      | .key :: ts => do
        let isEmpty := ts.head? = some .value || endsFlowEntry .flowMappingEnd ts
        let (key, ts) ← readUnless handles fuel isEmpty .flow ts
        let (value, ts) ← flowValue handles fuel .flowMappingEnd ts
        let (members, ts) ← flowMembers handles fuel false ts
        some ((key, value) :: members, ts)
      | ts => do
        let (key, ts) ← read handles fuel .flow ts
        let (members, ts) ← flowMembers handles fuel false ts
        some ((key, .empty) :: members, ts)

end

end Node

end TestCluster.Yaml
