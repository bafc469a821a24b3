import TestCluster.Text.Digit
import TestCluster.Text.Numeral

/-!
# Internet addresses — of four bytes, or of eight groups

    The older kind of address is written as four decimal numbers between dots. The newer kind
    is written as eight hexadecimal numbers between colons; one run of zeros may be left out,
    and the last two groups may be written like an address of the older kind.
-/

namespace TestCluster

/-- An internet address. -/
inductive IpAddress
  | v4 (a b c d : UInt8)
  | v6 (groups : Vector UInt16 8)
  deriving DecidableEq, Repr

namespace IpAddress

/-- Every address of the older kind. -/
def everyV4 : IpAddress := .v4 0 0 0 0

/-- Every address of either kind. -/
def every : IpAddress := .v6 (Vector.replicate 8 0)

/-- The address under which a machine knows itself. -/
def localhost : IpAddress := .v4 127 0 0 1

/-! ## Reading -/

/-- Reads a decimal number below 256, without zeros in front. -/
def readByte (cs : List Char) : Option (UInt8 × List Char) := do
  let digits := cs.takeWhile fun c => (Text.digit? c).isSome
  let n ← Text.digitsIn? 10 digits
  if 3 < digits.length ∨ 255 < n ∨ (digits.head? = some '0' ∧ digits.length ≠ 1) then none
  else some (.ofNat n, cs.drop digits.length)

/-- Reads a given character. -/
def readMark (mark : Char) : List Char → Option (List Char)
  | [] => none
  | c :: cs => if c = mark then some cs else none

/-- Reads four bytes between dots. -/
def readBytes (cs : List Char) : Option ((UInt8 × UInt8 × UInt8 × UInt8) × List Char) := do
  let (a, cs) ← readByte cs
  let (b, cs) ← readByte (← readMark '.' cs)
  let (c, cs) ← readByte (← readMark '.' cs)
  let (d, cs) ← readByte (← readMark '.' cs)
  pure ((a, b, c, d), cs)

/-- Reads up to four hexadecimal digits. -/
def readGroup (cs : List Char) : Option (UInt16 × List Char) := do
  let digits := cs.takeWhile fun c => (Text.hexDigit? c).isSome
  let n ← Text.digitsIn? 16 digits
  if 4 < digits.length then none else some (.ofNat n, cs.drop digits.length)

/-- Two bytes as one group. -/
def groupOf (high low : UInt8) : UInt16 := .ofNat (high.toNat * 256 + low.toNat)

/-- Groups that were read, whether they end with bytes, and what follows them. -/
structure Groups where
  groups : List UInt16
  endInBytes : Bool
  rest : List Char

/-- Reads as many groups as there are, up to a limit; `first` says that no colon comes before
    the next one. The last two may be written as four bytes. -/
def readGroups (first : Bool) : (limit : Nat) → List Char → Groups
  | 0, cs => ⟨[], false, cs⟩
  | limit + 1, cs =>
    match if first then some cs else readMark ':' cs with
    | none => ⟨[], false, cs⟩
    | some next =>
      match if limit = 0 then none else readBytes next with
      | some ((a, b, c, d), rest) => ⟨[groupOf a b, groupOf c d], true, rest⟩
      | none =>
        match readGroup next with
        | none => ⟨[], false, cs⟩
        | some (g, rest) =>
          let others := readGroups false limit rest
          { others with groups := g :: others.groups }

/-- The address of eight groups. -/
def ofGroups? (groups : List UInt16) : Option IpAddress :=
  if h : groups.length = 8 then some (.v6 ⟨groups.toArray, by simpa using h⟩) else none

/-- Reads an address of eight groups, of which a run of zeros may be left out. -/
def readLong (cs : List Char) : Option (IpAddress × List Char) := do
  let front := readGroups true 8 cs
  if front.groups.length = 8 then pure (← ofGroups? front.groups, front.rest)
  else if front.endInBytes then none
  else
    let back := readGroups true (7 - front.groups.length)
      (← readMark ':' (← readMark ':' front.rest))
    let missing := 8 - front.groups.length - back.groups.length
    pure (← ofGroups? (front.groups ++ List.replicate missing 0 ++ back.groups), back.rest)

/-- Reads an address. -/
def ofText? (s : String) : Option IpAddress := do
  let (address, rest) ← match readBytes s.toList with
    | some ((a, b, c, d), rest) => some (.v4 a b c d, rest)
    | none => readLong s.toList
  if rest.isEmpty then some address else none

/-! ## Writing -/

/-- Four bytes between dots. -/
def bytesText (bytes : List UInt8) : String :=
  ".".intercalate (bytes.map fun b => Text.decimal b.toNat)

/-- Groups between colons. -/
def groupsText (groups : List UInt16) : String :=
  ":".intercalate (groups.map fun g => String.ofList (Nat.toDigits 16 g.toNat))

/-- How many zeros groups start with. -/
def zerosAhead (groups : List UInt16) : Nat := (groups.takeWhile (· == 0)).length

/-- Where the longest run of zeros starts, the first of several, and its length. -/
def longestZeros (groups : List UInt16) : Nat × Nat :=
  (List.range groups.length).foldl (fun best i =>
    let n := zerosAhead (groups.drop i)
    if best.2 < n then (i, n) else best) (0, 0)

/-- Eight groups as text: the longest run of two or more zeros is left out. -/
def longText (groups : List UInt16) : String :=
  let (start, length) := longestZeros groups
  if length < 2 then groupsText groups
  else groupsText (groups.take start) ++ "::" ++ groupsText (groups.drop (start + length))

/-- The bytes of an address of the older kind that is written as one of the newer kind. -/
def mappedBytes? : List UInt16 → Option (List UInt8)
  | [0, 0, 0, 0, 0, 0xFFFF, a, b] =>
    some [.ofNat (a.toNat / 256), .ofNat a.toNat, .ofNat (b.toNat / 256), .ofNat b.toNat]
  | _ => none

/-- The address as text. -/
def text : IpAddress → String
  | .v4 a b c d => bytesText [a, b, c, d]
  | .v6 groups =>
    match mappedBytes? groups.toList with
    | some bytes => "::ffff:" ++ bytesText bytes
    | none => longText groups.toList

end IpAddress

end TestCluster
