/-!
# Characters and positions of a YAML text

    Five characters end a line; a carriage return before a line feed is part of that line
    end. A position counts characters from the start of the text, lines, and characters
    from the start of the line: the scanner decides by columns what belongs to what.
-/

namespace TestCluster.Yaml

/-- Whether the character may occur in a YAML text at all. -/
def isAllowed (c : Char) : Bool :=
  let n := c.toNat
  n == 0x09 || n == 0x0A || n == 0x0D || decide (0x20 ≤ n ∧ n ≤ 0x7E) || n == 0x85 ||
  decide (0xA0 ≤ n ∧ n ≤ 0xFFFD) || decide (0x10000 ≤ n)

/-- Whether the character ends a line. -/
def isBreak (c : Char) : Bool :=
  c == '\n' || c == '\r' || c == '\u0085' || c == '\u2028' || c == '\u2029'

/-- Whether the character is a space or a tab. -/
def isBlank (c : Char) : Bool := c == ' ' || c == '\t'

/-- Whether the text, from here on, starts with a space, a tab or a line end, or is at its
    own end. -/
def startsBlank : List Char → Bool
  | [] => true
  | c :: _ => isBlank c || isBreak c

/-- Whether the character may be part of a name: a letter or digit of ASCII, `_` or `-`. -/
def isNameChar (c : Char) : Bool := c.isAlphanum || c == '_' || c == '-'

/-- Whether the character is an ASCII digit. -/
def isDigit (c : Char) : Bool := decide ('0' ≤ c ∧ c ≤ '9')

/-- Whether a line that starts here is a document marker: three times the character, and
    then a blank. -/
def isMarker (mark : Char) : List Char → Bool
  | a :: b :: c :: rest => a == mark && b == mark && c == mark && startsBlank rest
  | _ => false

/-- Whether a line that starts here opens or closes a document. -/
def isDocumentMarker (cs : List Char) : Bool := isMarker '-' cs || isMarker '.' cs

/-- What a line end counts as inside a scalar: a line feed, unless it is one of the two
    separators that stand for themselves. -/
def breakText (c : Char) : Char := if c == '\u2028' || c == '\u2029' then c else '\n'

/-- A place in a text. -/
structure Position where
  index : Nat
  line : Nat
  column : Nat
  deriving DecidableEq, Repr, Inhabited

namespace Position

/-- The start of a text. -/
def start : Position := ⟨0, 0, 0⟩

/-- The place after a character of the same line. -/
def next (p : Position) : Position := ⟨p.index + 1, p.line, p.column + 1⟩

/-- The place after the character that ends a line. -/
def newLine (p : Position) : Position := ⟨p.index + 1, p.line + 1, 0⟩

/-- The place some characters further on in the same line. -/
def skip (n : Nat) (p : Position) : Position := ⟨p.index + n, p.line, p.column + n⟩

end Position

end TestCluster.Yaml
