import TestCluster.Members
import TestCluster.Number.Binary64

/-!
# Document values — what a document says, whatever format it is written in

    A value is null, a switch, a number, a text, a list or a mapping of texts to values.
-/

namespace TestCluster

/-- A value of a document. -/
inductive Value
  | null
  | bool (b : Bool)
  | int (n : Int)
  | float (x : Binary64)
  | string (s : String)
  | array (items : List Value)
  | object (members : List (String × Value))
  deriving Repr, Inhabited

end TestCluster
