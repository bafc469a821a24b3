/-!
# Targets — what a request names on the server

    A target is written as a path, a question mark and a query. Neither may hold a blank, a
    character beyond ASCII, or one of the few that an address has to escape; a number sign
    ends the target, and what follows it is not sent. No address is longer than 65534 bytes.
-/

namespace TestCluster.Api

/-- What a request names. -/
structure Target where
  path : String
  query : String
  deriving DecidableEq, Repr

/-- Why an address names no target. -/
inductive AddressFault
  | tooLong
  /-- It holds a character that no address may hold. -/
  | character
  deriving DecidableEq, Repr

/-- The fault in words. -/
def AddressFault.message : AddressFault → String
  | .tooLong => "uri too long"
  | .character => "invalid uri character"

namespace Target

/-- Whether the character may stand in a path. -/
def isPathChar (c : Char) : Bool :=
  let n := c.toNat
  n == 0x21 || decide (0x24 ≤ n ∧ n ≤ 0x3B) || n == 0x3D || decide (0x40 ≤ n ∧ n ≤ 0x5F) ||
  decide (0x61 ≤ n ∧ n ≤ 0x7A) || n == 0x7C || n == 0x7E || c == '"' || c == '\x7b' || c == '\x7d'

/-- Whether the character may stand in a query. -/
def isQueryChar (c : Char) : Bool :=
  let n := c.toNat
  n == 0x21 || decide (0x24 ≤ n ∧ n ≤ 0x3B) || n == 0x3D || decide (0x3F ≤ n ∧ n ≤ 0x7E)

/-- The target that an address names, if the address is well formed. -/
def ofChars? (cs : List Char) : Option Target :=
  let address := cs.takeWhile (· != '#')
  let path := address.takeWhile (· != '?')
  let query := (address.dropWhile (· != '?')).drop 1
  if path.all isPathChar && query.all isQueryChar then
    some ⟨String.ofList path, String.ofList query⟩
  else none

/-- How many bytes an address may have. -/
def lengthLimit : Nat := 65534

/-- The target that an address names, or what is wrong with the address. -/
def ofText (address : String) : Except AddressFault Target :=
  if lengthLimit < address.utf8ByteSize then .error .tooLong
  else
    match ofChars? address.toList with
    | some target => .ok target
    | none => .error .character

end Target

end TestCluster.Api
