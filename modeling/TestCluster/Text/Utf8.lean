/-!
# UTF-8 — from bytes to text

    `decode?` takes only well-formed bytes. `decodeLossy` takes any: each maximal part that
    could have started a character but does not complete one gives one replacement
    character.
-/

namespace TestCluster.Text

/-- How many bytes follow a lead byte, the range of the first of them, and the lead byte's
    share of the code point; nothing for a byte that leads no character. -/
def leadByte (b : UInt8) : Option (Nat × UInt8 × UInt8 × Nat) :=
  let n := b.toNat
  if n < 0x80 then some (0, 0, 0, n)
  else if n < 0xC2 then none
  else if n < 0xE0 then some (1, 0x80, 0xBF, n - 0xC0)
  else if n = 0xE0 then some (2, 0xA0, 0xBF, 0)
  else if n = 0xED then some (2, 0x80, 0x9F, 0xD)
  else if n < 0xF0 then some (2, 0x80, 0xBF, n - 0xE0)
  else if n = 0xF0 then some (3, 0x90, 0xBF, 0)
  else if n < 0xF4 then some (3, 0x80, 0xBF, n - 0xF0)
  else if n = 0xF4 then some (3, 0x80, 0x8F, 4)
  else none

/-- Reads the bytes that complete a character: the code point if they do, and what follows
    the part that was read. -/
def continuation (count : Nat) (low high : UInt8) (code : Nat) :
    List UInt8 → Option Nat × List UInt8
  | [] => (if count = 0 then some code else none, [])
  | b :: bs =>
    match count with
    | 0 => (some code, b :: bs)
    | count + 1 =>
      if low ≤ b ∧ b ≤ high then continuation count 0x80 0xBF (code * 64 + b.toNat % 64) bs
      else (none, b :: bs)

/-- The characters of the bytes, with nothing for each malformed part. -/
def decodeParts : Nat → List UInt8 → List (Option Char)
  | 0, _ => []
  | _, [] => []
  | fuel + 1, b :: bs =>
    match leadByte b with
    | none => none :: decodeParts fuel bs
    | some (count, low, high, code) =>
      let (code?, rest) := continuation count low high code bs
      code?.map Char.ofNat :: decodeParts fuel rest

/-- The text of bytes that are well-formed throughout. -/
def decode? (bytes : List UInt8) : Option String :=
  ((decodeParts bytes.length bytes).mapM id).map String.ofList

/-- The text of bytes, each malformed part replaced. -/
def decodeLossy (bytes : List UInt8) : String :=
  String.ofList ((decodeParts bytes.length bytes).map (·.getD '\uFFFD'))

end TestCluster.Text
