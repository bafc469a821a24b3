import TestCluster.Environment
import TestCluster.Text.Blank
import TestCluster.Text.Case
import TestCluster.Text.Numeral

/-!
# Overrides — settings that environment variables replace

    Four variables are read. The switches take the usual spellings of yes and no in any
    letter case, the port a numeral, both with blanks around them; a value that fits neither
    counts as unset. The name is taken as it stands, unless it is empty.
-/

namespace TestCluster

/-- The settings found in the environment. -/
structure Overrides where
  cleanup : Option Bool := none
  reuse : Option Bool := none
  name : Option String := none
  ingressPort : Option UInt16 := none
  deriving DecidableEq, Repr

namespace Overrides

/-- The full name of a variable, from the part that is its own. -/
def variableName (suffix : String) : String := "E2E_CLUSTER_" ++ suffix

/-- Reads a switch: blanks around it and its letter case do not matter. -/
def readSwitch (value : String) : Option Bool :=
  match Text.lowercase (Text.trim value) with
  | "1" | "true" | "yes" | "on" | "enabled" => some true
  | "0" | "false" | "no" | "off" | "disabled" => some false
  | _ => none

/-- Reads a port, blanks around it ignored. -/
def readPort (value : String) : Option UInt16 :=
  (Text.readPort (Text.trimChars value.toList)).toOption

/-- Reads a name: any text but the empty one. -/
def readName (value : String) : Option String := if value = "" then none else some value

/-- The overrides of an environment. -/
def ofEnvironment (env : Environment) : Overrides where
  cleanup := env (variableName "CLEANUP") >>= readSwitch
  reuse := env (variableName "REUSE") >>= readSwitch
  name := env (variableName "NAME") >>= readName
  ingressPort := env (variableName "INGRESS_PORT") >>= readPort

/-- Whether anything is overridden. -/
def hasAny (o : Overrides) : Bool :=
  o.cleanup.isSome || o.reuse.isSome || o.name.isSome || o.ingressPort.isSome

/-- One override as it is written into the environment. -/
inductive Entry
  | cleanup (value : Bool)
  | reuse (value : Bool)
  | name (value : String)
  | ingressPort (value : UInt16)
  | raw (suffix value : String)
  deriving DecidableEq, Repr

/-- A switch as text. -/
def switchText : Bool → String
  | true => "true"
  | false => "false"

/-- The variable that an override sets, and its value. -/
def Entry.setting : Entry → Environment.Setting
  | .cleanup value => ⟨variableName "CLEANUP", switchText value⟩
  | .reuse value => ⟨variableName "REUSE", switchText value⟩
  | .name value => ⟨variableName "NAME", value⟩
  | .ingressPort value => ⟨variableName "INGRESS_PORT", Text.decimal value.toNat⟩
  | .raw suffix value => ⟨variableName suffix, value⟩

end Overrides

end TestCluster
