import TestCluster.Number.Shortest
import TestCluster.Yaml.Char
import TestCluster.Yaml.Scalar
import TestCluster.Yaml.Token

/-!
# Writing YAML — from a value to its text

    Collections are written as blocks, the empty ones in brackets. A text of more lines than
    one is written line by line; any other is written plain where it reads back as itself, in
    single quotes where only its spelling is in the way, and in double quotes where some of
    its characters have to be escaped.
-/

namespace TestCluster.Yaml

/-! ## How a text can be written -/

/-- Whether the character can stand for itself in a text. -/
def isPrintable (c : Char) : Bool :=
  let n := c.toNat
  n == 0x0A || decide (0x20 ≤ n ∧ n ≤ 0x7E) || decide (0xA0 ≤ n ∧ n ≤ 0xFFFD ∧ n ≠ 0xFEFF)

/-- Whether two characters that are next to each other pass two tests. -/
def anyAdjacent (p q : Char → Bool) (cs : List Char) : Bool :=
  (cs.zip (cs.drop 1)).any fun (a, b) => p a && q b

/-- Whether a character that no escape stands for ends a word of a plain scalar. -/
def isSpace (c : Char) : Bool := c == ' '

/-- Whether the character may not start a plain scalar. -/
def isIndicator (c : Char) : Bool :=
  ['#', ',', '[', ']', '{', '}', '&', '*', '!', '|', '>', '\'', '"', '%', '@', '\x60'].contains c

/-- Whether a colon before a blank, or a number sign after one, is among the characters. -/
def hasIndicator (afterBlank : Bool) : List Char → Bool
  | [] => false
  | c :: cs =>
    (c == ':' && startsBlank cs) || (c == '#' && afterBlank) ||
      hasIndicator (isBlank c || isBreak c) cs

/-- Whether a plain scalar of these characters would be taken for something else. -/
def looksSpecial (cs : List Char) : Bool :=
  cs.take 3 == ['-', '-', '-'] || cs.take 3 == ['.', '.', '.'] ||
    match cs with
    | [] => false
    | c :: rest =>
      isIndicator c || ((c == '?' || c == ':' || c == '-') && startsBlank rest) ||
        hasIndicator (isBlank c || isBreak c) rest

/-- Whether some character has to be escaped: one that cannot be printed, or a space right
    before a line end, which no style without escapes keeps. -/
def needsEscape (cs : List Char) : Bool :=
  cs.any (fun c => !isPrintable c) || anyAdjacent isSpace isBreak cs

/-- Whether the characters may be written plain. -/
def allowsPlain (cs : List Char) : Bool :=
  !(needsEscape cs || looksSpecial cs || cs.any isBreak || cs.head?.any isSpace ||
    cs.getLast?.any isSpace)

/-- Whether the characters may be written between single quotes. -/
def allowsSingle (cs : List Char) : Bool := !(needsEscape cs || anyAdjacent isBreak isSpace cs)

/-- Whether the characters may be written line by line. -/
def allowsLiteral (cs : List Char) : Bool := !(needsEscape cs || cs.getLast?.any isSpace)

/-- Whether a plain scalar of this text says this text. -/
def saysText (s : String) : Bool :=
  (match Scalar.value? s with
    | some (.string _) => true
    | _ => false) && !Scalar.isZeroPadded s.toList

/-- How a text is written. -/
def styleOf (s : String) : ScalarStyle :=
  let cs := s.toList
  if cs.contains '\n' then if allowsLiteral cs then .literal else .doubleQuoted
  else if saysText s && allowsPlain cs then .plain
  else if allowsSingle cs then .singleQuoted
  else .doubleQuoted

/-! ## Writing a text -/

/-- Spaces up to a column. -/
def spaces (column : Nat) : List Char := List.replicate column ' '

/-- Characters between single quotes. After a line end the next one, or the closing quote,
    starts at `indent`. -/
def singleFrom (indent : Nat) (afterBreak : Bool) : List Char → List Char
  | [] => (if afterBreak then spaces indent else []) ++ ['\'']
  | c :: cs =>
    if isBreak c then c :: singleFrom indent true cs
    else
      (if afterBreak then spaces indent else []) ++ (if c == '\'' then ['\'', '\''] else [c]) ++
        singleFrom indent false cs

/-- A hexadecimal digit in upper case. -/
def hexDigit (n : Nat) : Char := Char.ofNat (if n < 10 then 48 + n else 55 + n)

/-- A number in hexadecimal digits, with zeros in front up to a width. -/
def hexChars : (width : Nat) → Nat → List Char
  | 0, _ => []
  | width + 1, n => hexChars width (n / 16) ++ [hexDigit (n % 16)]

/-- One character between double quotes. -/
def escapeChar (c : Char) : List Char :=
  match c with
  | '\x00' => ['\\', '0']
  | '\x07' => ['\\', 'a']
  | '\x08' => ['\\', 'b']
  | '\t' => ['\\', 't']
  | '\n' => ['\\', 'n']
  | '\x0b' => ['\\', 'v']
  | '\x0c' => ['\\', 'f']
  | '\r' => ['\\', 'r']
  | '\x1b' => ['\\', 'e']
  | '"' => ['\\', '"']
  | '\\' => ['\\', '\\']
  | '\u0085' => ['\\', 'N']
  | '\u2028' => ['\\', 'L']
  | '\u2029' => ['\\', 'P']
  | c =>
    if isPrintable c then [c]
    else if c.toNat ≤ 0xFF then '\\' :: 'x' :: hexChars 2 c.toNat
    else if c.toNat ≤ 0xFFFF then '\\' :: 'u' :: hexChars 4 c.toNat
    else '\\' :: 'U' :: hexChars 8 c.toNat

/-- What stands behind the bar of a text that is written line by line: the indentation, if the
    first line does not show it, and what becomes of the line ends at the end. -/
def literalHeader (cs : List Char) : List Char :=
  (if cs.head?.any fun c => isSpace c || isBreak c then ['2'] else []) ++
    match cs.reverse with
    | [] => ['-']
    | last :: before =>
      if !isBreak last then ['-']
      else match before with
        | [] => ['+']
        | c :: _ => if isBreak c then ['+'] else []

/-- The lines of a text at a column, with the line end of the last one. -/
def literalFrom (indent : Nat) (afterBreak : Bool) : List Char → List Char
  | [] => if afterBreak then [] else ['\n']
  | c :: cs =>
    if isBreak c then c :: literalFrom indent true cs
    else (if afterBreak then spaces indent else []) ++ c :: literalFrom indent false cs

/-- A text up to the end of its line, or of its last one. Further lines start at `indent`. -/
def textChars (indent : Nat) (s : String) : List Char :=
  let cs := s.toList
  match styleOf s with
  | .literal | .folded => '|' :: literalHeader cs ++ '\n' :: literalFrom indent true cs
  | .plain => cs ++ ['\n']
  | .singleQuoted => '\'' :: singleFrom indent false cs ++ ['\n']
  | .doubleQuoted => '"' :: cs.flatMap escapeChar ++ ['"', '\n']

/-! ## Writing a value -/

/-- A double as YAML spells it. -/
def floatChars (x : Binary64) : List Char :=
  if x.isFinite then x.documentChars
  else if x.magnitude = Binary64.infinityBits then
    (if x.isNegative then ['-'] else []) ++ ['.', 'i', 'n', 'f']
  else ['.', 'n', 'a', 'n']

/-- An integer. -/
def intChars (n : Int) : List Char :=
  (if n < 0 then ['-'] else []) ++ Text.decimalChars n.natAbs

/-- A value that is no collection, or an empty one, up to the end of its line. -/
def scalarChars (indent : Nat) : Value → List Char
  | .null => ['n', 'u', 'l', 'l', '\n']
  | .bool true => ['t', 'r', 'u', 'e', '\n']
  | .bool false => ['f', 'a', 'l', 's', 'e', '\n']
  | .int n => intChars n ++ ['\n']
  | .float x => floatChars x ++ ['\n']
  | .string s => textChars indent s
  | .array _ => ['[', ']', '\n']
  | .object _ => ['{', '}', '\n']

/-- A value that starts in the middle of a line, at the column `indent`, where its own further
    lines start too. The keys of mappings are written as they are. -/
def valueChars (indent : Nat) : Value → List Char
  | .array (v :: vs) => '-' :: ' ' :: valueChars (indent + 2) v ++ itemsChars indent vs
  | .object ((k, v) :: ms) => k.toList ++ ':' :: memberChars indent v ++ membersChars indent ms
  | v => scalarChars indent v
where
  /-- Items of a sequence, each on its own line. -/
  itemsChars (indent : Nat) : List Value → List Char
    | [] => []
    | v :: vs => spaces indent ++ '-' :: ' ' :: valueChars (indent + 2) v ++ itemsChars indent vs
  /-- Members of a mapping, each on its own line. -/
  membersChars (indent : Nat) : List (String × Value) → List Char
    | [] => []
    | (k, v) :: ms =>
      spaces indent ++ k.toList ++ ':' :: memberChars indent v ++ membersChars indent ms
  /-- What stands behind the colon of a mapping's key. A sequence starts at the key's column. -/
  memberChars (indent : Nat) : Value → List Char
    | .array (v :: vs) =>
      '\n' :: spaces indent ++ '-' :: ' ' :: valueChars (indent + 2) v ++ itemsChars indent vs
    | .object (m :: ms) => '\n' :: membersChars (indent + 2) (m :: ms)
    | v => ' ' :: scalarChars (indent + 2) v

/-- The YAML text of a value. -/
def print (v : Value) : String := String.ofList (valueChars 0 v)

end TestCluster.Yaml
