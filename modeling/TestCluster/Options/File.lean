import TestCluster.Json.Format
import TestCluster.Json.Printer
import TestCluster.Options.Fields
import TestCluster.Path
import TestCluster.Text.Utf8
import TestCluster.World
import TestCluster.Yaml.Format
import TestCluster.Yaml.Printer

/-!
# Options files — JSON or YAML, by the file's extension
-/

namespace TestCluster.Options

/-- Whether a file's extension says that it is written in YAML. -/
def isYamlPath (path : String) : Bool :=
  match Path.extension? path with
  | some e => e == "yaml" || e == "yml"
  | none => false

/-- Reads options from JSON text. -/
def ofJson (s : String) : Except Error Options :=
  match Json.read read s with
  | some options => .ok options
  | none => .error .json

/-- Reads options from YAML text. -/
def ofYaml (s : String) : Except Error Options :=
  match (Yaml.Document.single? s).bind (Yaml.Document.read read) with
  | some options => .ok options
  | none => .error .yaml

/-- Reads options from the bytes of the file at a path. -/
def ofBytes (path : String) (bytes : List UInt8) : Except Error Options :=
  match Text.decode? bytes with
  | none => .error (.file .notText)
  | some s => if isYamlPath path then ofYaml s else ofJson s

/-- The text of options in the file at a path. -/
def fileText (path : String) (options : Options) : String :=
  if isYamlPath path then Yaml.print options.toValue else Json.indented options.toValue

/-- Reads options from a file. -/
def load (path : String) : Attempt World.calls Options := do
  match ← World.host (.readFile path) with
  | .error fault => throw (.file fault)
  | .ok bytes => ExceptT.mk (pure (ofBytes path bytes))

/-- Writes options to a file. -/
def save (path : String) (options : Options) : Attempt World.calls Unit := do
  match ← World.host (.writeFile path (options.fileText path).toUTF8.toList) with
  | .error fault => throw (.file fault)
  | .ok () => pure ()

end TestCluster.Options
