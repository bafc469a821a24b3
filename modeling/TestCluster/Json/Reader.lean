import TestCluster.Text.Digit
import TestCluster.Json.Tree

/-!
# Reading JSON — from a text to its tree

    The grammar is the usual one, with nothing added: no comments, no trailing commas, no
    byte order mark, no raw control characters inside a string. Strings are read in two
    steps, into code units and then into text, because an escape may stand for half of a
    character.
-/

namespace TestCluster.Json

/-! ## Strings -/

/-- A piece of a string: a character as it stands, or a code unit written as an escape. -/
inductive CodeUnit
  | char (c : Char)
  | code (n : Nat)
  deriving DecidableEq, Repr

/-- The value of four hexadecimal digits. -/
def hex4? (a b c d : Char) : Option Nat := do
  let a ← Text.hexDigit? a
  let b ← Text.hexDigit? b
  let c ← Text.hexDigit? c
  let d ← Text.hexDigit? d
  pure (((a * 16 + b) * 16 + c) * 16 + d)

/-- The character that a one-letter escape stands for. -/
def escape? (c : Char) : Option Char :=
  match c with
  | '"' => some '"'
  | '\\' => some '\\'
  | '/' => some '/'
  | 'b' => some '\x08'
  | 'f' => some '\x0c'
  | 'n' => some '\n'
  | 'r' => some '\r'
  | 't' => some '\t'
  | _ => none

/-- Reads a string's code units up to its closing quote, and gives what follows that. -/
def readUnits : List Char → Option (List CodeUnit × List Char)
  | [] => none
  | '"' :: rest => some ([], rest)
  | '\\' :: 'u' :: a :: b :: c :: d :: rest => do
    let n ← hex4? a b c d
    let (us, rest) ← readUnits rest
    pure (.code n :: us, rest)
  | '\\' :: e :: rest => do
    let c ← escape? e
    let (us, rest) ← readUnits rest
    pure (.char c :: us, rest)
  | c :: rest =>
    if c.toNat < 0x20 ∨ c = '\\' then none
    else do
      let (us, rest) ← readUnits rest
      pure (.char c :: us, rest)

/-- Whether a code unit opens a surrogate pair. -/
def isHigh (n : Nat) : Bool := decide (0xD800 ≤ n ∧ n < 0xDC00)

/-- Whether a code unit closes a surrogate pair. -/
def isLow (n : Nat) : Bool := decide (0xDC00 ≤ n ∧ n < 0xE000)

/-- The characters that code units stand for; none when a surrogate has no partner. -/
def unitsText? : List CodeUnit → Option (List Char)
  | [] => some []
  | .char c :: us => (unitsText? us).map (c :: ·)
  | .code n :: .code m :: us =>
    if isHigh n then
      if isLow m then
        (unitsText? us).map (Char.ofNat (0x10000 + (n - 0xD800) * 0x400 + (m - 0xDC00)) :: ·)
      else none
    else if isLow n then none
    else (unitsText? (.code m :: us)).map (Char.ofNat n :: ·)
  | .code n :: us =>
    if isHigh n || isLow n then none else (unitsText? us).map (Char.ofNat n :: ·)

/-- Reads a string after its opening quote. -/
def readString (cs : List Char) : Option (Option String × List Char) :=
  (readUnits cs).map fun (us, rest) => ((unitsText? us).map String.ofList, rest)

/-! ## Numbers -/

/-- Whether the character is an ASCII digit. -/
def isDigit (c : Char) : Bool := decide ('0' ≤ c ∧ c ≤ '9')

/-- The digits at the start, and the rest. -/
def takeDigits (cs : List Char) : List Char × List Char := (cs.takeWhile isDigit, cs.dropWhile isDigit)

/-- Reads the digits before the point: a zero alone, or digits that start with no zero. -/
def readWhole : List Char → Option (List Char × List Char)
  | '0' :: rest => some (['0'], rest)
  | cs =>
    match takeDigits cs with
    | ([], _) => none
    | (ds, rest) => some (ds, rest)

/-- Reads a point and the digits after it, if there is a point. -/
def readFraction : List Char → Option (Option (List Char) × List Char)
  | '.' :: rest =>
    match takeDigits rest with
    | ([], _) => none
    | (ds, rest) => some (some ds, rest)
  | cs => some (none, cs)

/-- Reads the sign and the digits of an exponent. -/
def readExponentDigits (cs : List Char) : Option ((Bool × List Char) × List Char) :=
  let (negative, cs) := match cs with
    | '-' :: rest => (true, rest)
    | '+' :: rest => (false, rest)
    | _ => (false, cs)
  match takeDigits cs with
  | ([], _) => none
  | (ds, rest) => some ((negative, ds), rest)

/-- Reads an exponent, if there is one. -/
def readExponent : List Char → Option (Option (Bool × List Char) × List Char)
  | 'e' :: rest => (readExponentDigits rest).map fun (e, r) => (some e, r)
  | 'E' :: rest => (readExponentDigits rest).map fun (e, r) => (some e, r)
  | cs => some (none, cs)

/-- Reads a number. -/
def readNumber (cs : List Char) : Option (Number × List Char) := do
  let (negative, cs) := match cs with
    | '-' :: rest => (true, rest)
    | _ => (false, cs)
  let (whole, cs) ← readWhole cs
  let (fraction, cs) ← readFraction cs
  let (exponent, cs) ← readExponent cs
  pure (⟨negative, whole, fraction, exponent⟩, cs)

/-! ## Trees -/

/-- Whether the character may stand between the tokens of a JSON text. -/
def isSpace (c : Char) : Bool := c == ' ' || c == '\n' || c == '\t' || c == '\r'

/-- The characters without the spaces at their start. -/
def skipSpace (cs : List Char) : List Char := cs.dropWhile isSpace

mutual

/-- Reads a tree, and gives what follows it. -/
def readTree : Nat → List Char → Option (Tree × List Char)
  | 0, _ => none
  | fuel + 1, cs =>
    match skipSpace cs with
    | 'n' :: 'u' :: 'l' :: 'l' :: rest => some (.null, rest)
    | 't' :: 'r' :: 'u' :: 'e' :: rest => some (.bool true, rest)
    | 'f' :: 'a' :: 'l' :: 's' :: 'e' :: rest => some (.bool false, rest)
    | '"' :: rest => (readString rest).map fun (s, r) => (.string s, r)
    | '[' :: rest =>
      match skipSpace rest with
      | ']' :: r => some (.array [], r)
      | r => (readItems fuel r).map fun (items, r) => (.array items, r)
    | '{' :: rest =>
      match skipSpace rest with
      | '}' :: r => some (.object [], r)
      | r => (readMembers fuel r).map fun (members, r) => (.object members, r)
    | cs => (readNumber cs).map fun (n, r) => (.number n, r)

/-- Reads one or more items up to the closing bracket. -/
def readItems : Nat → List Char → Option (List Tree × List Char)
  | 0, _ => none
  | fuel + 1, cs => do
    let (item, rest) ← readTree fuel cs
    match skipSpace rest with
    | ',' :: rest =>
      let (items, rest) ← readItems fuel rest
      pure (item :: items, rest)
    | ']' :: rest => pure ([item], rest)
    | _ => none

/-- Reads one or more members up to the closing brace. -/
def readMembers : Nat → List Char → Option (List (Option String × Tree) × List Char)
  | 0, _ => none
  | fuel + 1, cs => do
    match skipSpace cs with
    | '"' :: rest =>
      let (key, rest) ← readString rest
      match skipSpace rest with
      | ':' :: rest =>
        let (value, rest) ← readTree fuel rest
        match skipSpace rest with
        | ',' :: rest =>
          let (members, rest) ← readMembers fuel rest
          pure ((key, value) :: members, rest)
        | '}' :: rest => pure ([(key, value)], rest)
        | _ => none
      | _ => none
    | _ => none

end

/-- The tree of a whole JSON text. Every bracket costs two steps at most, so twice the
    length is fuel enough. -/
def ofChars? (cs : List Char) : Option Tree :=
  match readTree (2 * cs.length + 2) cs with
  | some (tree, rest) => if (skipSpace rest).isEmpty then some tree else none
  | none => none

/-- The tree of a JSON text. -/
def ofText? (s : String) : Option Tree := ofChars? s.toList

end TestCluster.Json
