/-!
# Members — what a mapping holds under its keys

    The members of a mapping are kept in the order in which their keys first came. A key that
    comes again takes the place, and the value, of the one before it.
-/

namespace TestCluster.Members

variable {α : Type}

/-- The members with a key set to a value. -/
def insert (key : String) (value : α) : List (String × α) → List (String × α)
  | [] => [(key, value)]
  | (k, v) :: rest => if k = key then (k, value) :: rest else (k, v) :: insert key value rest

/-- The members that come one after another, each key once. -/
def ofList (members : List (String × α)) : List (String × α) :=
  members.foldl (fun seen (k, v) => insert k v seen) []

end TestCluster.Members
