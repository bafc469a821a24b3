import TestCluster.Yaml.Token.Gap

/-!
# Plain scalars — text without quotes

    A plain scalar ends before a colon that a blank follows, before a comment, before a
    document marker, before a line that is not indented enough and, in a flow collection,
    before the collection's own punctuation.
-/

namespace TestCluster.Yaml

/-- Whether the character is punctuation of flow collections. -/
def isFlowPunctuation (c : Char) : Bool :=
  c == ',' || c == '[' || c == ']' || c == '{' || c == '}'

/-- A plain scalar's text, and whether a line end follows it. -/
structure PlainText where
  text : List Char
  broken : Bool
  deriving DecidableEq, Repr

/-- Whether a plain scalar ends before a character that is neither a blank nor a line end. -/
def endsPlain (flow : Bool) (indent : Nat) (gap : Gap) (p : Position) (c : Char)
    (cs : List Char) : Bool :=
  gap.hasBreak && !flow && decide (p.column < indent)
    || p.column == 0 && isDocumentMarker (c :: cs)
    || c == '#' && gap != .none
    || c == ':' && startsBlank cs
    || flow && isFlowPunctuation c

/-- Reads a plain scalar. `indent` is the least column at which a further line may start;
    `reversed` is the text so far. Fails on a tab in the place of indentation, and in a flow
    collection on a colon right before punctuation. -/
def plainFrom (flow : Bool) (indent : Nat) (gap : Gap) (reversed : List Char) (p : Position) :
    List Char → Option (Piece PlainText)
  | [] => some ⟨⟨reversed.reverse, gap.hasBreak⟩, [], p⟩
  | c :: cs =>
    if isBlank c then
      if c == '\t' && gap.hasBreak && decide (p.column < indent) then none
      else plainFrom flow indent (gap.addBlank c) reversed p.next cs
    else if isBreak c then
      if c == '\r' && cs.head? == some '\n' then plainFrom flow indent gap reversed p.next cs
      else plainFrom flow indent (gap.addBreak c) reversed p.newLine cs
    else if endsPlain flow indent gap p c cs then
      some ⟨⟨reversed.reverse, gap.hasBreak⟩, c :: cs, p⟩
    else if flow && c == ':' && cs.head?.any fun d => isFlowPunctuation d || d == '?' then none
    else plainFrom flow indent .none (c :: gap.onto reversed) p.next cs

end TestCluster.Yaml
