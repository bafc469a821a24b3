import TestCluster.Path
import TestCluster.Text.Quoted

/-!
# Kinds of objects — group, version and kind

    An object names its kind by an `apiVersion` and a `kind`. The `apiVersion` is cut at its
    first slash into group and version; without a slash the group is the empty one, that of
    the core kinds. Every text can be taken apart in this way.
-/

namespace TestCluster

/-- A group of the API, and a version of it. -/
structure GroupVersion where
  group : String
  version : String
  deriving DecidableEq, Repr

/-- A kind of object within a version of a group. -/
structure GroupVersionKind where
  group : String
  version : String
  kind : String
  deriving DecidableEq, Repr

namespace GroupVersion

/-- The characters before the first slash, and those after it if there is one. -/
def cutAtSlash : List Char → List Char × Option (List Char)
  | [] => ([], none)
  | c :: cs =>
    if c = '/' then ([], some cs)
    else
      let (before, after) := cutAtSlash cs
      (c :: before, after)

/-- Takes an `apiVersion` apart. -/
def ofText (apiVersion : String) : GroupVersion :=
  match cutAtSlash apiVersion.toList with
  | (version, none) => ⟨"", String.ofList version⟩
  | (group, some version) => ⟨String.ofList group, String.ofList version⟩

/-- The `apiVersion` of a group and version. -/
def text (gv : GroupVersion) : String :=
  if gv.group = "" then gv.version else gv.group ++ "/" ++ gv.version

end GroupVersion

namespace GroupVersionKind

/-- The group and version that the kind belongs to. -/
def groupVersion (k : GroupVersionKind) : GroupVersion := ⟨k.group, k.version⟩

/-- The `apiVersion` of an object of this kind. -/
def apiVersion (k : GroupVersionKind) : String := k.groupVersion.text

/-- The kind that an object's `apiVersion` and `kind` name. -/
def ofTypes (apiVersion kind : String) : GroupVersionKind :=
  let gv := GroupVersion.ofText apiVersion
  ⟨gv.group, gv.version, kind⟩

/-- The kind as it stands in a diagnostic. -/
def display (k : GroupVersionKind) : String :=
  "GroupVersionKind \x7b group: " ++ Text.quoted k.group ++ ", version: " ++
    Text.quoted k.version ++ ", kind: " ++ Text.quoted k.kind ++ " \x7d"

end GroupVersionKind

end TestCluster
