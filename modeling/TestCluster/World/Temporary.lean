import TestCluster.World

/-!
# Temporary files — there while something is done, and gone afterwards

    A temporary file gets a name that no other file has. It is removed when the work with it
    is over, whether that work succeeds or fails.
-/

namespace TestCluster.World

/-- Makes a temporary file whose name starts and ends with given texts, does something with its
    path, and removes it. -/
def withTemporary {α : Type} (nameStart nameEnd : String) (work : String → Attempt calls α) :
    Attempt calls α := do
  match ← host (.makeTemporary nameStart nameEnd) with
  | .error fault => throw (.file fault)
  | .ok path => ExceptT.mk do
    let result ← (work path).run
    let _ ← host (.remove path)
    pure result

end TestCluster.World
