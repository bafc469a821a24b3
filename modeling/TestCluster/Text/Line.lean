import TestCluster.Text.Blank

/-!
# Lines — a text cut at its line feeds

    A line ends at a line feed or at the end of the text, and a carriage return right before
    the line feed belongs to the line end. An empty rest after the last line feed is no line.
-/

namespace TestCluster.Text

/-- The pieces between line feeds, with the empty piece after a final one left out.
    `current` holds the piece that is being read, last character first. -/
def feedPiecesFrom (current : List Char) : List Char → List (List Char)
  | [] => if current.isEmpty then [] else [current.reverse]
  | c :: cs =>
    if c = '\n' then current.reverse :: feedPiecesFrom [] cs else feedPiecesFrom (c :: current) cs

/-- The lines of a text as they stand between line feeds, carriage returns included. -/
def feedPieces (cs : List Char) : List (List Char) := feedPiecesFrom [] cs

/-- A piece without the carriage returns at its end. -/
def dropReturns (line : List Char) : List Char := dropEndWhile (· == '\r') line

/-- The lines that hold more than blanks, each without the blanks at its ends. -/
def filledLines (s : String) : List String :=
  ((feedPieces s.toList).map trimChars).filterMap fun line =>
    if line.isEmpty then none else some (String.ofList line)

end TestCluster.Text
