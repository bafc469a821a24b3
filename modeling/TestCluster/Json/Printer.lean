import TestCluster.Json.Tree
import TestCluster.Number.Shortest

/-!
# Writing JSON — from a value to its text

    Strings escape the quote, the backslash and the control characters, the common ones by a
    letter and the others by four hexadecimal digits; every other character stands for
    itself. Floats are written with the fewest digits that read back; one that is no number,
    or infinite, is written as null. The compact form has no space outside strings, the
    indented form one item a line.
-/

namespace TestCluster.Json

/-- A hexadecimal digit in lower case. -/
def hexDigit (n : Nat) : Char := Char.ofNat (if n < 10 then 48 + n else 87 + n)

/-- One character as it stands in a string. -/
def escapeChar (c : Char) : List Char :=
  if c = '"' then ['\\', '"']
  else if c = '\\' then ['\\', '\\']
  else if c = '\x08' then ['\\', 'b']
  else if c = '\x0c' then ['\\', 'f']
  else if c = '\n' then ['\\', 'n']
  else if c = '\r' then ['\\', 'r']
  else if c = '\t' then ['\\', 't']
  else if c.toNat < 0x20 then
    ['\\', 'u', '0', '0', hexDigit (c.toNat / 16), hexDigit (c.toNat % 16)]
  else [c]

/-- A string between quotes. -/
def stringChars (s : String) : List Char := '"' :: s.toList.flatMap escapeChar ++ ['"']

/-- An integer. -/
def intChars (n : Int) : List Char :=
  if n < 0 then '-' :: Text.decimalChars n.natAbs else Text.decimalChars n.natAbs

/-- A value that is neither a list nor a mapping. -/
def scalarChars : Value → List Char
  | .bool true => ['t', 'r', 'u', 'e']
  | .bool false => ['f', 'a', 'l', 's', 'e']
  | .int n => intChars n
  | .float x => if x.isFinite then x.documentChars else ['n', 'u', 'l', 'l']
  | .string s => stringChars s
  | _ => ['n', 'u', 'l', 'l']

/-- A value without any space between its parts. -/
def compactChars : Value → List Char
  | .array items => '[' :: compactItems items
  | .object members => '{' :: compactMembers members
  | v => scalarChars v
where
  compactItems : List Value → List Char
    | [] => [']']
    | [v] => compactChars v ++ [']']
    | v :: vs => compactChars v ++ ',' :: compactItems vs
  compactMembers : List (String × Value) → List Char
    | [] => ['}']
    | [(k, v)] => stringChars k ++ ':' :: compactChars v ++ ['}']
    | (k, v) :: ms => stringChars k ++ ':' :: compactChars v ++ ',' :: compactMembers ms

/-- A line feed, and the indentation of a level. -/
def newLine (level : Nat) : List Char := '\n' :: List.replicate (2 * level) ' '

/-- A value with one item a line, starting at a level of indentation. -/
def indentedChars (level : Nat) : Value → List Char
  | .array [] => ['[', ']']
  | .array (v :: vs) =>
    '[' :: (newLine (level + 1) ++ indentedChars (level + 1) v ++ indentedItems level vs)
  | .object [] => ['{', '}']
  | .object ((k, v) :: ms) =>
    '{' :: (newLine (level + 1) ++ stringChars k ++ ':' :: ' ' :: indentedChars (level + 1) v ++
      indentedMembers level ms)
  | v => scalarChars v
where
  indentedItems (level : Nat) : List Value → List Char
    | [] => newLine level ++ [']']
    | v :: vs =>
      ',' :: (newLine (level + 1) ++ indentedChars (level + 1) v ++ indentedItems level vs)
  indentedMembers (level : Nat) : List (String × Value) → List Char
    | [] => newLine level ++ ['}']
    | (k, v) :: ms =>
      ',' :: (newLine (level + 1) ++ stringChars k ++ ':' :: ' ' :: indentedChars (level + 1) v ++
        indentedMembers level ms)

/-- The compact JSON text of a value. -/
def compact (v : Value) : String := String.ofList (compactChars v)

/-- The indented JSON text of a value. -/
def indented (v : Value) : String := String.ofList (indentedChars 0 v)

end TestCluster.Json
