import TestCluster.Error
import TestCluster.Path

/-!
# A scripted disk — directories and files from a table

    A path is followed from the root, or from the current directory, one piece at a time:
    every piece but the last has to name a directory. There are no links and no rights.
-/

namespace TestCluster.Scripted

/-- Where something is on a disk: the names on the way from the root. -/
abbrev Place := List String

/-- The directories besides the root, and the files with their content. -/
structure Disk where
  directories : List Place := []
  files : List (Place × List UInt8) := []
  /-- Where relative paths start. -/
  current : Place := []
  deriving Repr

namespace Disk

/-- What a path leads to. -/
inductive Target
  | directory (place : Place)
  | file (place : Place) (content : List UInt8)
  /-- Nothing is there, in a directory that is there. `asDirectory` says that the path ends
      like that of a directory. -/
  | nothing (place : Place) (asDirectory : Bool)
  deriving Repr

/-- Whether a directory is there. -/
def hasDirectory (d : Disk) (place : Place) : Bool := place.isEmpty || d.directories.contains place

/-- The most bytes that a name may have. -/
def longestName : Nat := 255

/-- The least number of bytes that are too many for a path. -/
def tooLongPath : Nat := 4096

/-- Whether a piece of a path leads nowhere else. -/
def stays (piece : String) : Bool := piece == "" || piece == "."

/-- Follows the pieces of a path from a directory. -/
def follow (d : Disk) (here : Place) : List String → Except OsError Target
  | [] => .ok (.directory here)
  | piece :: pieces =>
    if stays piece then d.follow here pieces
    else if piece == ".." then d.follow here.dropLast pieces
    else if longestName < piece.utf8ByteSize then .error .nameTooLong
    else
      let place := here ++ [piece]
      if d.hasDirectory place then d.follow place pieces
      else
        match d.files.lookup place with
        | some content => if pieces.isEmpty then .ok (.file place content) else .error .notDirectory
        | none => if pieces.all stays then .ok (.nothing place (!pieces.isEmpty)) else .error .noEntry

/-- What a path leads to. -/
def find (d : Disk) (path : String) : Except FileFault Target :=
  if '\x00' ∈ path.toList then .error .zeroCharacter
  else if path = "" then .error (.system .noEntry)
  else if tooLongPath ≤ path.utf8ByteSize then .error (.system .nameTooLong)
  else
    let pieces := (Path.piecesAt '/' path.toList).map String.ofList
    (d.follow (if Path.IsAbsolute path then [] else d.current) pieces).mapError .system

/-- Whether anything is at a path. -/
def exists_ (d : Disk) (path : String) : Bool :=
  match d.find path with
  | .ok (.directory _) | .ok (.file ..) => true
  | _ => false

/-- The content of the file at a path. -/
def read (d : Disk) (path : String) : Except FileFault (List UInt8) :=
  match d.find path with
  | .error fault => .error fault
  | .ok (.directory _) => .error (.system .isDirectory)
  | .ok (.file _ content) => .ok content
  | .ok (.nothing ..) => .error (.system .noEntry)

/-- The disk with a file at a place. -/
def put (d : Disk) (place : Place) (content : List UInt8) : Disk :=
  { d with files := (place, content) :: d.files.filter (·.1 != place) }

/-- Writes a file, which may be a new one. -/
def write (d : Disk) (path : String) (content : List UInt8) : Except FileFault Disk :=
  match d.find path with
  | .error fault => .error fault
  | .ok (.directory _) | .ok (.nothing _ true) => .error (.system .isDirectory)
  | .ok (.file place _) | .ok (.nothing place false) => .ok (d.put place content)

/-- Removes the file at a path, if there is one. -/
def remove (d : Disk) (path : String) : Disk :=
  match d.find path with
  | .ok (.file place _) => { d with files := d.files.filter (·.1 != place) }
  | _ => d

/-- Whether a path starts with the path of a directory, as it is written. -/
def isBelow (path directory : String) : Bool :=
  Path.IsAbsolute path && (Path.components directory).isPrefixOf (Path.components path)

/-- The files below a directory, by their paths in order. -/
def paths (d : Disk) (directory : Place) : List String :=
  let places := (d.files.map Prod.fst).filter (directory.isPrefixOf ·)
  (places.map fun place => String.join (place.map ("/" ++ ·))).mergeSort fun a b => decide (a ≤ b)

/-- The disk with a directory, and with all directories on the way to it. -/
def withDirectory (d : Disk) (directory : String) : Disk :=
  let place := (Path.components directory).map String.ofList
  let places := (List.range (place.length + 1)).map place.take
  { d with directories := d.directories ++ places.filter fun p => !d.hasDirectory p }

end Disk

end TestCluster.Scripted
