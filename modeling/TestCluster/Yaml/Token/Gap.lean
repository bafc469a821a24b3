import TestCluster.Yaml.Token

/-!
# Gaps — the blanks and line ends between two words of a scalar

    Inside a plain or quoted scalar the blanks of one line stand for themselves. A line end
    swallows the blanks around it and folds: a single one is read as a space, further ones
    as themselves.
-/

namespace TestCluster.Yaml

/-- The blanks and line ends since the last character of a scalar. -/
inductive Gap
  /-- No blank since the last character. -/
  | none
  /-- Blanks of the same line, the last one first. -/
  | blanks (reversed : List Char)
  /-- One or more line ends: the first one, unless it was escaped, and those after it, the
      last one first. -/
  | breaks (first : Option Char) (reversed : List Char)
  deriving DecidableEq, Repr

namespace Gap

/-- The gap with one more blank. Blanks next to a line end do not count. -/
def addBlank (c : Char) : Gap → Gap
  | .none => .blanks [c]
  | .blanks cs => .blanks (c :: cs)
  | .breaks first cs => .breaks first cs

/-- The gap with one more line end. -/
def addBreak (c : Char) : Gap → Gap
  | .breaks first cs => .breaks first (breakText c :: cs)
  | _ => .breaks (some (breakText c)) []

/-- What a gap between two words says. -/
def text : Gap → List Char
  | .none => []
  | .blanks cs => cs.reverse
  | .breaks (some '\n') [] => [' ']
  | .breaks (some '\n') cs => cs.reverse
  | .breaks first cs => first.toList ++ cs.reverse

/-- Whether the gap holds a line end. -/
def hasBreak : Gap → Bool
  | .breaks .. => true
  | _ => false

/-- Reversed text with a gap and one more character put on. -/
def onto (gap : Gap) (reversed : List Char) : List Char := gap.text.reverse ++ reversed

end Gap

end TestCluster.Yaml
