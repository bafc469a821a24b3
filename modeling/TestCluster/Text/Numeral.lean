/-!
# Numerals — whole numbers as decimal text

    A numeral is an optional plus sign and one or more ASCII digits, with any number of
    leading zeros, for a value below a bound. `readBelow` reads one from the left, so of
    two faults the one further left is reported; a character that is no digit comes before
    the overflow it would have caused.
-/

namespace TestCluster.Text

/-- Why a text is no numeral of the wanted range. -/
inductive NumeralFault
  | empty
  | badDigit
  | tooLarge
  deriving DecidableEq, Repr

/-- The fault in words. -/
def NumeralFault.message : NumeralFault → String
  | .empty => "cannot parse integer from empty string"
  | .badDigit => "invalid digit found in string"
  | .tooLarge => "number too large to fit in target type"

/-- The value of an ASCII digit. -/
def digit? (c : Char) : Option Nat :=
  if '0' ≤ c ∧ c ≤ '9' then some (c.toNat - '0'.toNat) else none

/-- Reads digits onto the value read so far. -/
def digitsBelow (bound : Nat) (value : Nat) : List Char → Except NumeralFault Nat
  | [] => .ok value
  | c :: cs =>
    match digit? c with
    | none => .error .badDigit
    | some d =>
      if value * 10 + d < bound then digitsBelow bound (value * 10 + d) cs
      else .error .tooLarge

/-- Reads a numeral whose value is below the bound. -/
def readBelow (bound : Nat) : List Char → Except NumeralFault Nat
  | [] => .error .empty
  | ['+'] => .error .badDigit
  | '+' :: cs => digitsBelow bound 0 cs
  | cs => digitsBelow bound 0 cs

/-- Reads a port number. -/
def readPort (cs : List Char) : Except NumeralFault UInt16 :=
  (readBelow UInt16.size cs).map (UInt16.ofNat ·)

/-- The decimal digits of a number, without leading zeros. -/
def decimalChars (n : Nat) : List Char := Nat.toDigits 10 n

/-- The number as decimal text. -/
def decimal (n : Nat) : String := String.ofList (decimalChars n)

end TestCluster.Text
