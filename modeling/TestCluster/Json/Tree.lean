import TestCluster.Number.Power
import TestCluster.Text.Numeral
import TestCluster.Value

/-!
# JSON trees — a JSON text as it is written

    A tree keeps what a reader of the text may still want to judge: a number its spelling,
    since `1`, `1.0` and `1e0` are told apart, an object all of its members, since some
    readers refuse a key that comes twice, and a string the fact that it is no Unicode text,
    which is the case when half of a surrogate pair is escaped without the other half.
-/

namespace TestCluster.Json

/-- A number as it is written. -/
structure Number where
  negative : Bool
  whole : List Char
  fraction : Option (List Char) := none
  /-- Whether the exponent has a minus sign, and its digits. -/
  exponent : Option (Bool × List Char) := none
  deriving DecidableEq, Repr

/-- A JSON text, taken apart. -/
inductive Tree
  | null
  | bool (b : Bool)
  | number (n : Number)
  /-- A string, or nothing where its escapes give no Unicode text. -/
  | string (s : Option String)
  | array (items : List Tree)
  | object (members : List (Option String × Tree))
  deriving Repr, Inhabited

/-- The value of a row of digits. -/
def digitsValue (ds : List Char) : Nat := ds.foldl (fun n d => n * 10 + (d.toNat - 48)) 0

namespace Number

/-- The number as a natural, when it is written without sign, fraction and exponent. -/
def nat? (n : Number) : Option Nat :=
  if n.negative ∨ n.fraction.isSome ∨ n.exponent.isSome then none else some (digitsValue n.whole)

/-- The number as an integer, when it is written without fraction and exponent. A minus sign
    in front of zero asks for a number that knows its sign, which an integer does not. -/
def int? (n : Number) : Option Int :=
  if n.fraction.isSome ∨ n.exponent.isSome then none
  else
    let magnitude := digitsValue n.whole
    if !n.negative then some magnitude
    else if magnitude = 0 then none
    else some (-magnitude)

/-- Digits read onto a significand as long as it stays below `2 ^ 64`, and the digits left. -/
def fitDigits (significand : Nat) : List Char → Nat × List Char
  | [] => (significand, [])
  | d :: ds =>
    let next := significand * 10 + (d.toNat - 48)
    if next < UInt64.size then fitDigits next ds else (significand, d :: ds)

/-- A significand times a power of ten, rounded at every step: the significand to a double
    first, then each product or quotient with a power of ten of at most `10 ^ 308`. -/
def scale : Nat → Binary64 → Int → Option Binary64
  | 0, x, _ => some x
  | fuel + 1, x, exponent =>
    if exponent.natAbs ≤ 308 then
      if 0 ≤ exponent then
        let y := x.mul (.powerOfTen exponent.natAbs)
        if y.isFinite then some y else none
      else some (x.div (.powerOfTen exponent.natAbs))
    else if x.magnitude = 0 then some x
    else if 0 ≤ exponent then none
    else scale fuel (x.div (.powerOfTen 308)) (exponent + 308)

/-- The number as a double; none when it is too large for one. Digits that no longer fit
    into the significand only count towards the exponent. -/
def float? (n : Number) : Option Binary64 :=
  let (significand, wholeLeft) := fitDigits 0 n.whole
  let fraction := n.fraction.getD []
  let (significand, fractionLeft) := fitDigits significand fraction
  let written : Int := wholeLeft.length - (fraction.length - fractionLeft.length : Nat)
  let exponent : Int := match n.exponent with
    | none => written
    | some (negative, ds) =>
      if negative then written - digitsValue ds else written + digitsValue ds
  -- four quotients by `10 ^ 308` bring every significand to zero
  (scale 5 (.ofNat significand) exponent).map (·.withSign n.negative)

/-- The number as a document value: an integer of 64 bits, signed or not, when it is written
    as one and fits, and a double otherwise. -/
def value? (n : Number) : Option Value :=
  match n.int? with
  | some i =>
    if -(twoTo 63 : Int) ≤ i ∧ i < twoTo 64 then some (.int i) else n.float?.map .float
  | none => n.float?.map .float

end Number

namespace Tree

/-- How deep arrays and objects are nested. -/
def depth : Tree → Nat
  | .array items => 1 + depthItems items
  | .object members => 1 + depthMembers members
  | _ => 0
where
  depthItems : List Tree → Nat
    | [] => 0
    | t :: ts => max t.depth (depthItems ts)
  depthMembers : List (Option String × Tree) → Nat
    | [] => 0
    | (_, t) :: ts => max t.depth (depthMembers ts)

/-- The value that a tree says; none when a string is no text or a number too large. -/
def value? : Tree → Option Value
  | .null => some .null
  | .bool b => some (.bool b)
  | .number n => n.value?
  | .string s => s.map .string
  | .array items => (valueItems? items).map .array
  | .object members => (valueMembers? members).map fun ms => .object (Members.ofList ms)
where
  valueItems? : List Tree → Option (List Value)
    | [] => some []
    | t :: ts => do
      let v ← t.value?
      let vs ← valueItems? ts
      pure (v :: vs)
  valueMembers? : List (Option String × Tree) → Option (List (String × Value))
    | [] => some []
    | (k, t) :: ts => do
      let k ← k
      let v ← t.value?
      let vs ← valueMembers? ts
      pure ((k, v) :: vs)

end Tree

end TestCluster.Json
