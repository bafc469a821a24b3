import TestCluster.Yaml.Token.Gap

/-!
# Block scalars — indented text kept line by line

    A header says whether lines are kept or folded, what happens to the line ends at the
    end, and how far the text is indented; without that number the first line that is not
    empty says it. The text ends with the first line that is indented less.
-/

namespace TestCluster.Yaml

/-- What happens to the line ends at the end of a block scalar. -/
inductive Chomping
  /-- None is kept. -/
  | strip
  /-- One is kept. -/
  | clip
  /-- All are kept. -/
  | keep
  deriving DecidableEq, Repr

/-- What a block scalar's header says. -/
structure BlockHeader where
  chomping : Chomping
  /-- How much further the text is indented than what holds it; 0 leaves it open. -/
  increment : Nat
  deriving DecidableEq, Repr

/-- The chomping that an indicator asks for. -/
def chomping? (c : Char) : Option Chomping :=
  if c == '+' then some .keep else if c == '-' then some .strip else none

/-- The header's two indicators, in either order and each at most once; an indentation of
    zero is refused. Gives also how many characters they take. -/
def blockHeader (cs : List Char) : Option (BlockHeader × Nat) :=
  match cs with
  | [] => some (⟨.clip, 0⟩, 0)
  | a :: rest =>
    match chomping? a with
    | some chomping =>
      match rest with
      | b :: _ =>
        if isDigit b then
          if b == '0' then none else some (⟨chomping, b.toNat - 48⟩, 2)
        else some (⟨chomping, 0⟩, 1)
      | [] => some (⟨chomping, 0⟩, 1)
    | none =>
      if isDigit a then
        if a == '0' then none
        else
          match rest.head?.bind chomping? with
          | some chomping => some (⟨chomping, a.toNat - 48⟩, 2)
          | none => some (⟨.clip, a.toNat - 48⟩, 1)
      else some (⟨.clip, 0⟩, 0)

/-- Skips blanks, and then a comment, up to the end of the line. Nothing else may stand
    there. The line end itself is skipped too. -/
def skipRestOfLine (comment : Bool) (p : Position) : List Char → Option (List Char × Position)
  | [] => some ([], p)
  | c :: cs =>
    if isBreak c then
      if c == '\r' && cs.head? == some '\n' then skipRestOfLine comment p.next cs
      else some (cs, p.newLine)
    else if comment then skipRestOfLine true p.next cs
    else if isBlank c then skipRestOfLine false p.next cs
    else if c == '#' then skipRestOfLine true p.next cs
    else none

/-- A block scalar that is being read. -/
structure BlockState where
  /-- The column where the text starts; 0 while it is not known. -/
  indent : Nat
  /-- The furthest column that a line reached with spaces alone. -/
  furthest : Nat
  /-- The line end of the last line that was not empty. -/
  lastBreak : Option Char
  /-- The line ends of the empty lines since then, the last one first. -/
  emptyLines : List Char
  /-- Whether the last line that was not empty starts with a blank. -/
  afterBlank : Bool
  /-- The text, last character first. -/
  reversed : List Char
  deriving Repr

namespace BlockState

/-- The text, with the line ends at its end chomped. -/
def finish (s : BlockState) (chomping : Chomping) : List Char :=
  s.reversed.reverse ++
    match chomping with
    | .strip => []
    | .clip => s.lastBreak.toList
    | .keep => s.lastBreak.toList ++ s.emptyLines.reverse

/-- The state at the start of a line's text: the line ends before it are put on, folded to
    a space where neither line starts with a blank. -/
def startLine (s : BlockState) (folded startsWithBlank : Bool) : BlockState :=
  let before :=
    if folded && s.lastBreak == some '\n' && !s.afterBlank && !startsWithBlank then
      if s.emptyLines.isEmpty then [' '] else s.emptyLines
    else s.emptyLines ++ s.lastBreak.toList
  { s with
    lastBreak := none, emptyLines := [], afterBlank := startsWithBlank
    reversed := before ++ s.reversed }

/-- The column where the text starts, once a line shows it: no less than one more than what
    holds the scalar. -/
def settle (s : BlockState) (least : Nat) : BlockState :=
  if s.indent = 0 then { s with indent := max s.furthest least } else s

end BlockState

/-- Reads the lines of a block scalar. `least` is the least column at which its text may
    start; `inLine` tells the text of a line from the indentation before it. Fails on a tab
    in the place of indentation. -/
def blockFrom (folded : Bool) (chomping : Chomping) (least : Nat) (inLine : Bool)
    (s : BlockState) (p : Position) : List Char → Option (Piece (List Char))
  | [] => some ⟨s.finish chomping, [], p⟩
  | c :: cs =>
    if isBreak c then
      if c == '\r' && cs.head? == some '\n' then
        -- the line end starts here: `furthest` must not count the carriage return
        blockFrom folded chomping least inLine s { p with index := p.index + 1 } cs
      else if inLine then
        blockFrom folded chomping least false { s with lastBreak := some (breakText c) }
          p.newLine cs
      else
        blockFrom folded chomping least false
          { s with
            furthest := max s.furthest p.column, emptyLines := breakText c :: s.emptyLines }
          p.newLine cs
    else if inLine then
      blockFrom folded chomping least true { s with reversed := c :: s.reversed } p.next cs
    else
      let indenting := s.indent == 0 || decide (p.column < s.indent)
      if indenting && c == ' ' then blockFrom folded chomping least false s p.next cs
      else if indenting && c == '\t' then none
      else
        let s := { s with furthest := max s.furthest p.column }.settle least
        if p.column = s.indent then
          let s := s.startLine folded (isBlank c)
          blockFrom folded chomping least true { s with reversed := c :: s.reversed } p.next cs
        else some ⟨s.finish chomping, c :: cs, p⟩

/-- Reads a block scalar after its first character. `parent` is the indentation of what
    holds it, if it is indented at all. -/
def blockScalar (folded : Bool) (parent : Option Nat) (p : Position) (cs : List Char) :
    Option (Piece (List Char)) := do
  let (header, taken) ← blockHeader cs
  let (rest, p) ← skipRestOfLine false (p.skip taken) (cs.drop taken)
  let indent :=
    if header.increment = 0 then 0
    else match parent with
      | some n => n + header.increment
      | none => header.increment
  let least := match parent with
    | some n => n + 1
    | none => 1
  blockFrom folded header.chomping least false ⟨indent, 0, none, [], false, []⟩ p rest

end TestCluster.Yaml
