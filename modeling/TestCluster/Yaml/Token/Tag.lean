import TestCluster.Text.Digit
import TestCluster.Yaml.Token.Block
import TestCluster.Yaml.Token.Quoted

/-!
# Anchors, tags and directives — what is said about a node or a document

    A tag is written in full between angle brackets, or as a handle with a suffix; which
    prefix a handle stands for is up to the document's directives. A percent sign in a tag
    escapes the bytes of a character.
-/

namespace TestCluster.Yaml

/-- The name at the start, and the place after it. -/
def nameAt (p : Position) (cs : List Char) : Piece (List Char) :=
  let name := cs.takeWhile isNameChar
  ⟨name, cs.dropWhile isNameChar, p.skip name.length⟩

/-- Whether an anchor's name may end here. -/
def endsAnchor (cs : List Char) : Bool :=
  startsBlank cs || cs.head?.any fun c =>
    c == '?' || c == ':' || c == ',' || c == ']' || c == '}' || c == '%' || c == '@' || c == '\x60'

/-- Reads the name of an anchor or alias. -/
def anchorName (p : Position) (cs : List Char) : Option (Piece (List Char)) :=
  let piece := nameAt p cs
  if piece.value.isEmpty || !endsAnchor piece.rest then none else some piece

/-- Whether the character may stand in a tag. Inside angle brackets, and in a directive,
    commas and square brackets may too. -/
def isTagChar (wide : Bool) (c : Char) : Bool :=
  isNameChar c || c == ';' || c == '/' || c == '?' || c == ':' || c == '@' || c == '&' ||
  c == '=' || c == '+' || c == '$' || c == '.' || c == '%' || c == '!' || c == '~' ||
  c == '*' || c == '\'' || c == '(' || c == ')' ||
  (wide && (c == ',' || c == '[' || c == ']'))

/-- How many bytes a character has whose first byte is given, and that byte's share of the
    code point. -/
def escapedLead? (n : Nat) : Option (Nat × Nat) :=
  if n < 0x80 then some (1, n)
  else if n < 0xC0 then none
  else if n < 0xE0 then some (2, n - 0xC0)
  else if n < 0xF0 then some (3, n - 0xE0)
  else if n < 0xF8 then some (4, n - 0xF0)
  else none

/-- What has been read of a percent escape. -/
inductive TagMode
  /-- No escape is open. -/
  | text
  /-- A percent sign has to follow: bytes that are missing, and the code point so far. -/
  | more (left code : Nat)
  /-- The first digit of a byte has to follow; nothing is known of the first byte. -/
  | high (state : Option (Nat × Nat))
  /-- The second digit of a byte has to follow. -/
  | low (state : Option (Nat × Nat)) (digit : Nat)
  deriving DecidableEq, Repr

/-- Reads the characters of a tag, and the place after them. -/
def tagFrom (wide : Bool) (mode : TagMode) (reversed : List Char) (p : Position) :
    List Char → Option (Piece (List Char))
  | [] => if mode = .text then some ⟨reversed.reverse, [], p⟩ else none
  | c :: cs =>
    match mode with
    | .text =>
      if !isTagChar wide c then some ⟨reversed.reverse, c :: cs, p⟩
      else if c == '%' then tagFrom wide (.high none) reversed p.next cs
      else tagFrom wide .text (c :: reversed) p.next cs
    | .more left code =>
      if c == '%' then tagFrom wide (.high (some (left, code))) reversed p.next cs else none
    | .high state =>
      match Text.hexDigit? c with
      | some d => tagFrom wide (.low state d) reversed p.next cs
      | none => none
    | .low state digit =>
      match Text.hexDigit? c with
      | none => none
      | some d =>
        let byte := digit * 16 + d
        let after : Option (Nat × Nat) := match state with
          | none => (escapedLead? byte).map fun (n, code) => (n - 1, code)
          | some (left, code) =>
            if 0x80 ≤ byte ∧ byte < 0xC0 then some (left - 1, code * 64 + byte % 64) else none
        match after with
        | none => none
        | some (0, code) => tagFrom wide .text (Char.ofNat code :: reversed) p.next cs
        | some (left, code) => tagFrom wide (.more left code) reversed p.next cs

/-- A tag's handle at the start: an exclamation mark, a name, and a second mark if it is
    there. -/
def tagHandle (p : Position) : List Char → Option (Piece (List Char))
  | '!' :: cs =>
    let name := nameAt p.next cs
    match name.rest with
    | '!' :: rest => some ⟨'!' :: name.value ++ ['!'], rest, name.position.next⟩
    | rest => some ⟨'!' :: name.value, rest, name.position⟩
  | _ => none

/-- Whether a handle is closed by a second mark. -/
def isClosedHandle (handle : List Char) : Bool :=
  decide (2 ≤ handle.length) && handle.getLast? == some '!'

/-- Reads a tag: its handle and suffix. A tag written in full has no handle, and neither has
    the mark that stands alone. -/
def tagName (p : Position) (cs : List Char) : Option (Piece (List Char × List Char)) :=
  match cs with
  | '!' :: '<' :: rest => do
    let suffix ← tagFrom true .text [] (p.skip 2) rest
    match suffix.rest with
    | '>' :: rest =>
      if suffix.value.isEmpty then none
      else some ⟨([], suffix.value), rest, suffix.position.next⟩
    | _ => none
  | _ => do
    let handle ← tagHandle p cs
    if isClosedHandle handle.value then
      let suffix ← tagFrom false .text [] handle.position handle.rest
      if suffix.value.isEmpty then none
      else some ⟨(handle.value, suffix.value), suffix.rest, suffix.position⟩
    else
      -- no handle after all: what follows the mark is the suffix
      let suffix ← tagFrom false .text (handle.value.drop 1).reverse handle.position handle.rest
      let name := if suffix.value.isEmpty then ([], ['!']) else (['!'], suffix.value)
      some ⟨name, suffix.rest, suffix.position⟩

/-- Reads a tag that ends where a tag may end: before a blank or, in a flow collection, before
    a comma. -/
def tagAt (flow : Bool) (p : Position) (cs : List Char) :
    Option (Piece (List Char × List Char)) :=
  (tagName p cs).filter fun piece =>
    startsBlank piece.rest || (flow && piece.rest.head? == some ',')

/-- Skips spaces and tabs. -/
def skipBlanks (p : Position) (cs : List Char) : List Char × Position :=
  (cs.dropWhile isBlank, p.skip (cs.takeWhile isBlank).length)

/-- Reads a number of a version directive: at least one digit and at most nine. -/
def versionNumber (p : Position) (cs : List Char) : Option (Piece Nat) :=
  let ds := cs.takeWhile isDigit
  if ds.isEmpty || decide (9 < ds.length) then none
  else
    some ⟨ds.foldl (fun n d => n * 10 + (d.toNat - 48)) 0, cs.dropWhile isDigit, p.skip ds.length⟩

/-- Reads what a version directive says after its name. -/
def versionAt (p : Position) (cs : List Char) : Option (Piece Token) := do
  let major ← versionNumber p cs
  match major.rest with
  | '.' :: rest => do
    let minor ← versionNumber major.position.next rest
    some ⟨.versionDirective major.value minor.value, minor.rest, minor.position⟩
  | _ => none

/-- Reads what a tag directive says after its name. -/
def tagShorthandAt (p : Position) (cs : List Char) : Option (Piece Token) := do
  let handle ← tagHandle p cs
  if (handle.value == ['!'] || isClosedHandle handle.value) && handle.rest.head?.any isBlank then
    let (rest, p) := skipBlanks handle.position handle.rest
    let start ← tagFrom true .text [] p rest
    if start.value.isEmpty || !startsBlank start.rest then none
    else some ⟨.tagDirective handle.value start.value, start.rest, start.position⟩
  else none

/-- Reads a directive after its percent sign, up to the end of its line. -/
def directiveAt (p : Position) (cs : List Char) : Option (Piece Token) := do
  let name := nameAt p cs
  let (rest, p) := skipBlanks name.position name.rest
  let piece ←
    if !startsBlank name.rest then none
    else if name.value = ['Y', 'A', 'M', 'L'] then versionAt p rest
    else if name.value = ['T', 'A', 'G'] then tagShorthandAt p rest
    else none
  let (rest, p) ← skipRestOfLine false piece.position piece.rest
  some ⟨piece.value, rest, p⟩

end TestCluster.Yaml
