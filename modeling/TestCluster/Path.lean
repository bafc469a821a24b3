/-!
# Paths — names of files, as text

    A path is a text with `/` between its components. Nothing here touches a file system:
    joining, the components and the extension are read off the text.
-/

namespace TestCluster.Path

/-- A path is absolute when it starts at the root. -/
def IsAbsolute (path : String) : Prop := path.toList.head? = some '/'

instance (path : String) : Decidable (IsAbsolute path) := inferInstanceAs (Decidable (_ = _))

/-- The path that `name` has inside a directory; an absolute name stands for itself. -/
def join (directory name : String) : String :=
  if IsAbsolute name then name
  else if directory.toList.getLast? = some '/' ∨ directory = "" then directory ++ name
  else directory ++ "/" ++ name

/-- The pieces of a text between the characters that are equal to `mark`. -/
def piecesAt (mark : Char) : List Char → List (List Char)
  | [] => [[]]
  | c :: cs =>
    if c = mark then [] :: piecesAt mark cs
    else
      match piecesAt mark cs with
      | [] => [[c]]
      | piece :: rest => (c :: piece) :: rest

/-- The components of a path: the pieces between slashes, less the empty ones and the dots
    that name the directory they stand in. -/
def components (path : String) : List (List Char) :=
  (piecesAt '/' path.toList).filter fun piece => !(piece.isEmpty || piece == ['.'])

/-- The file that a path names; none when it ends in the root or in a step upwards. -/
def fileName? (path : String) : Option (List Char) :=
  match (components path).getLast? with
  | some file => if file = ['.', '.'] then none else some file
  | none => none

/-- What follows the last dot of the file name, unless that dot is its first character. -/
def extension? (path : String) : Option String := do
  let file ← fileName? path
  let pieces := piecesAt '.' file
  match pieces.reverse with
  | after :: first :: [] => if first.isEmpty then none else some (String.ofList after)
  | after :: _ :: _ :: _ => some (String.ofList after)
  | _ => none

end TestCluster.Path
