import TestCluster.Text.Case
import TestCluster.Text.PrintTable

/-!
# Quoted text — a string as it appears inside a diagnostic

    The text stands between double quotes. Quotes, backslashes and the usual control
    characters get their short escapes; every other character that does not print, and every
    mark that would join the character before it, is written by its code point in braces.
-/

namespace TestCluster.Text

/-- The lower-case hexadecimal digits of a number, without leading zeros. -/
def hexChars (n : Nat) : List Char := Nat.toDigits 16 n

/-- Whether the character cannot stand for itself between quotes. -/
def isHidden (c : Char) : Bool :=
  let n := c.toNat
  if n < 0x80 then decide (n < 0x20) || n == 0x7F else inRanges PrintTable.hidden n

/-- One character as it stands between quotes. -/
def quotedChar (c : Char) : List Char :=
  if c = '\x00' then ['\\', '0']
  else if c = '\t' then ['\\', 't']
  else if c = '\r' then ['\\', 'r']
  else if c = '\n' then ['\\', 'n']
  else if c = '"' then ['\\', '"']
  else if c = '\\' then ['\\', '\\']
  else if isHidden c then ['\\', 'u', '\x7b'] ++ hexChars c.toNat ++ ['\x7d']
  else [c]

/-- The text between double quotes. -/
def quoted (s : String) : String :=
  String.ofList ('"' :: s.toList.flatMap quotedChar ++ ['"'])

end TestCluster.Text
