import TestCluster.Error
import TestCluster.Resource.Object
import TestCluster.Text.Line

/-!
# Manifests — documents one after another in one text

    A line of three dashes ends a document. Blank lines, and lines that start with a number
    sign, are left out of the documents; a document without any other line is none.
-/

namespace TestCluster.Manifest

/-- Whether a line stands between two documents. -/
def isSeparator (line : List Char) : Bool := line == ['-', '-', '-']

/-- Whether a line belongs to no document. -/
def isSkipped (line : List Char) : Bool := (Text.trimChars line).isEmpty || line.head? == some '#'

/-- The documents as lists of lines. `current` holds the lines of the one that is being read,
    the last one first. -/
def groups (current : List (List Char)) : List (List Char) → List (List (List Char))
  | [] => if current.isEmpty then [] else [current.reverse]
  | line :: lines =>
    if isSeparator line then
      if current.isEmpty then groups [] lines else current.reverse :: groups [] lines
    else if isSkipped line then groups current lines
    else groups (line :: current) lines

/-- The lines as text, each with its line end. -/
def joinLines (lines : List (List Char)) : String :=
  String.ofList (lines.flatMap (· ++ ['\n']))

/-- The documents of a manifest. -/
def split (s : String) : List String :=
  (groups [] ((Text.feedPieces s.toList).map Text.dropReturns)).map joinLines

/-- Reads the object of a document, which has to name its kind and itself. -/
def decode (document : String) : Except DocumentFault Object :=
  match Object.ofYaml? document with
  | none => .error .unreadable
  | some object =>
    if object.types.isNone then .error .missingTypes
    else if object.name = "" then .error .missingName
    else .ok object

/-- Reads the objects of documents, numbered from `index` on. -/
def decodeAll (index : Nat) : List String → Except Error (List Object)
  | [] => .ok []
  | document :: documents =>
    match decode document with
    | .error fault => .error (.decode index fault)
    | .ok object => (decodeAll (index + 1) documents).map (object :: ·)

/-- The objects of a manifest. A manifest without any document is refused. -/
def parse (s : String) : Except Error (List Object) :=
  match split s with
  | [] => .error .emptyManifest
  | documents => decodeAll 0 documents

/-- The kind of an object, which has to name it; `index` is its place in a manifest. -/
def groupVersionKind (index : Nat) (object : Object) : Except Error GroupVersionKind :=
  match object.types with
  | some types => .ok types.groupVersionKind
  | none => .error (.decode index .missingTypes)

end TestCluster.Manifest
