import TestCluster.Value

/-!
# Document formats — how the nodes of a document are read

    What a record holds does not depend on the format it is written in, so a record's reader
    is written once, over a `Format`: one function per kind of value, from a node of the
    format to that value. Reading may fail, and may keep count of something while it goes;
    both are in the monad `m`.
-/

namespace TestCluster

/-- The readers of one document format, whose nodes are of type `N`. -/
structure Format (m : Type → Type) (N : Type) where
  /-- A text. -/
  text : N → m String
  /-- A natural number below a bound. -/
  natBelow : Nat → N → m Nat
  /-- An integer of 64 bits. -/
  int64 : N → m Int
  bool : N → m Bool
  /-- The node itself, or nothing where it is the format's null. -/
  optional : N → m (Option N)
  items : N → m (List N)
  /-- The members of a mapping with texts for keys. -/
  members : N → m (List (String × N))
  /-- The values of a record: by position where the format allows that, else by name. -/
  fields : N → m (List N ⊕ List (String × N))
  /-- Any value, in which every key is a text. -/
  value : N → m Value
  /-- Any value, in which what stands for a key is taken for a text. -/
  openValue : N → m Value
  /-- The failure of a reader that finds something else than it wants. -/
  refuse : {α : Type} → m α

namespace Format

variable {m : Type → Type} [Monad m] {N α : Type}

/-- Reads a node that may be null. -/
def nullable (f : Format m N) (read : N → m α) (node : N) : m (Option α) := do
  match ← f.optional node with
  | none => pure none
  | some node => some <$> read node

/-- Reads a list of nodes. -/
def list (f : Format m N) (read : N → m α) (node : N) : m (List α) := do
  (← f.items node).mapM read

/-- The members with a key. -/
def withKey (key : String) (members : List (String × N)) : List N :=
  members.filterMap fun (k, node) => if k = key then some node else none

/-- Reads the member with a key, which may not come twice; `absent` stands for no member. -/
def once (f : Format m N) (members : List (String × N)) (key : String) (read : N → m α)
    (absent : m α) : m α :=
  match withKey key members with
  | [] => absent
  | [node] => read node
  | _ => f.refuse

/-- Reads every member with a key; the last one counts. -/
def last (members : List (String × N)) (key : String) (read : N → m α) : m (Option α) := do
  pure (← (withKey key members).mapM read).getLast?

/-- Reads the member with a key, which may be null and may come more than once. -/
def field (f : Format m N) (members : List (String × N)) (key : String) (read : N → m α) :
    m (Option α) :=
  Option.join <$> last members key (f.nullable read)

end Format

end TestCluster
