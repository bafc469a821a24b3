import TestCluster.Number.Power
import TestCluster.Text.Digit
import TestCluster.Number.Binary64
import TestCluster.Text.Numeral
import TestCluster.Value

/-!
# Scalars — what the text of a plain scalar says

    A plain scalar is null, a switch or a number where it is spelled like one, and a text
    otherwise. Whole numbers may be written in base 2, 8 or 16. A row of digits that starts
    with a zero is a text, since it is more likely a code than a number.
-/

namespace TestCluster.Yaml.Scalar

/-- Whether the text is one of the spellings of null. -/
def isNull (s : String) : Bool := s == "null" || s == "Null" || s == "NULL" || s == "~"

/-- The switch that the text spells. -/
def bool? (s : String) : Option Bool :=
  if s == "true" || s == "True" || s == "TRUE" then some true
  else if s == "false" || s == "False" || s == "FALSE" then some false
  else none

/-- Whether the text is a row of digits that starts with a zero and goes on; a sign may come
    before it. -/
def isZeroPadded (cs : List Char) : Bool :=
  let digits := match cs with
    | '-' :: ds => ds
    | '+' :: ds => ds
    | ds => ds
  digits.head? == some '0' && decide (1 < digits.length) && digits.all fun c => c.isDigit

/-- The number that the text spells, without its sign, in any of the four bases. -/
def magnitude? (cs : List Char) : Option Nat :=
  match cs with
  | '0' :: 'x' :: ds => Text.digitsIn? 16 ds
  | '0' :: 'o' :: ds => Text.digitsIn? 8 ds
  | '0' :: 'b' :: ds => Text.digitsIn? 2 ds
  | ds => if isZeroPadded ds then none else Text.digitsIn? 10 ds

/-- The number below a bound that the text spells; it may have a plus sign. -/
def nat? (bound : Nat) (s : String) : Option Nat :=
  let magnitude := match s.toList with
    | '+' :: cs => magnitude? cs
    | cs => magnitude? cs
  magnitude.filter (· < bound)

/-- The number from `-bound` on that the text spells behind a minus sign. -/
def negative? (bound : Nat) (s : String) : Option Int :=
  match s.toList with
  | '-' :: cs => ((magnitude? cs).filter (· ≤ bound)).map fun n => -(n : Int)
  | _ => none

/-- The integer of so many bits, one of them for the sign, that the text spells. -/
def int? (bits : Nat) (s : String) : Option Int :=
  match nat? (twoTo (bits - 1)) s with
  | some n => some n
  | none => negative? (twoTo (bits - 1)) s

/-- The parts of a decimal number without sign: the digits before and after the point, and
    the exponent. At least one digit has to come before the exponent. -/
def decimalParts? (cs : List Char) : Option (List Char × List Char × Int) := do
  let whole := cs.takeWhile Char.isDigit
  let rest := cs.dropWhile Char.isDigit
  let (fraction, rest) := match rest with
    | '.' :: rest => (rest.takeWhile Char.isDigit, rest.dropWhile Char.isDigit)
    | rest => ([], rest)
  let exponent ← match rest with
    | [] => some 0
    | e :: rest =>
      if e == 'e' || e == 'E' then
        match rest with
        | '-' :: ds => (Text.digitsIn? 10 ds).map fun n => -(n : Int)
        | '+' :: ds => (Text.digitsIn? 10 ds).map fun n => (n : Int)
        | ds => (Text.digitsIn? 10 ds).map fun n => (n : Int)
      else none
  if whole.isEmpty && fraction.isEmpty then none else some (whole, fraction, exponent)

/-- The double nearest to a decimal number, if it is finite. -/
def decimal? (negative : Bool) (cs : List Char) : Option Binary64 := do
  let (whole, fraction, exponent) ← decimalParts? cs
  let digits := (whole ++ fraction).dropWhile (· == '0')
  let x := Binary64.ofDecimal negative ((Text.digitsIn? 10 digits).getD 0) digits.length
    (exponent - fraction.length)
  if x.isFinite then some x else none

/-- The double that the text spells: a decimal number, infinity or no number at all. -/
def float? (s : String) : Option Binary64 :=
  if s == ".inf" || s == ".Inf" || s == ".INF" || s == "+.inf" || s == "+.Inf" || s == "+.INF"
  then some (.infinity false)
  else if s == "-.inf" || s == "-.Inf" || s == "-.INF" then some (.infinity true)
  else if s == ".nan" || s == ".NaN" || s == ".NAN" then some .notANumber
  else match s.toList with
    | '+' :: cs => decimal? false cs
    | '-' :: cs => decimal? true cs
    | cs => decimal? false cs

/-- A double as a value of a document, where only numbers are kept. -/
def floatValue (x : Binary64) : Value := if x.isFinite then .float x else .null

/-- The integer of 64 bits, with a sign or without, that the text spells. Nothing is told of
    a text that spells no integer, and `some none` of an integer beyond 64 bits. -/
def integer? (s : String) : Option (Option Int) :=
  match nat? (twoTo 64) s, negative? (twoTo 63) s with
  | some n, _ => some (some n)
  | _, some i => some (some i)
  | none, none =>
    if (nat? (twoTo 128) s).isSome || (negative? (twoTo 127) s).isSome then some none else none

/-- The value that a plain scalar says; none for an integer beyond 64 bits. -/
def value? (s : String) : Option Value :=
  if s.isEmpty || isNull s then some .null
  else match bool? s with
    | some b => some (.bool b)
    | none =>
      match integer? s with
      | some i => i.map .int
      | none =>
        if isZeroPadded s.toList then some (.string s)
        else match float? s with
          | some x => some (floatValue x)
          | none => some (.string s)

end TestCluster.Yaml.Scalar
