import TestCluster.Text.Blank
import TestCluster.Text.Numeral

/-!
# Node ports — a port of the cluster's nodes, reachable on a port of the host

    A mapping is written `node:host`, or as one number when both ports are equal. Blanks
    around either number are ignored. The text is cut at its first colon, so a second colon
    makes the host part unreadable.
-/

namespace TestCluster

/-- A port of every node, published on a port of the host. -/
structure NodePort where
  node : UInt16
  host : UInt16
  deriving DecidableEq, Repr, Inhabited

namespace NodePort

/-- Port 0 stands for no port, so a mapping can be published only if neither is 0. -/
def IsValid (p : NodePort) : Prop := p.node ≠ 0 ∧ p.host ≠ 0

instance (p : NodePort) : Decidable p.IsValid := inferInstanceAs (Decidable (_ ∧ _))

/-- The mapping as text, `node:host`. -/
def text (p : NodePort) : String :=
  String.ofList
    (Text.decimalChars p.node.toNat ++ ':' :: Text.decimalChars p.host.toNat)

/-- A part of a mapping's text that is no port number. -/
structure Malformed where
  part : String
  fault : Text.NumeralFault
  deriving DecidableEq, Repr

/-- The malformed part in words. -/
def Malformed.message (m : Malformed) : String :=
  "invalid port '" ++ m.part ++ "': " ++ m.fault.message

/-- Reads one part of a mapping's text, blanks around the number ignored. -/
def readPart (cs : List Char) : Except Malformed UInt16 :=
  match Text.readPort (Text.trimChars cs) with
  | .ok p => .ok p
  | .error fault => .error ⟨String.ofList cs, fault⟩

/-- The characters before the first colon, and those after it if there is one. -/
def cutAtColon : List Char → List Char × Option (List Char)
  | [] => ([], none)
  | c :: cs =>
    if c = ':' then ([], some cs)
    else
      let (before, after) := cutAtColon cs
      (c :: before, after)

/-- Reads a mapping; a fault in the node part is reported before one in the host part. -/
def ofChars (cs : List Char) : Except Malformed NodePort :=
  match cutAtColon cs with
  | (both, none) => (readPart both).map fun p => ⟨p, p⟩
  | (node, some host) => do
    let n ← readPart node
    let h ← readPart host
    pure ⟨n, h⟩

/-- Reads the text of a mapping. -/
def ofText (s : String) : Except Malformed NodePort := ofChars s.toList

end NodePort

end TestCluster
