/-!
# The process environment — variables by name

    An environment gives each name a value or nothing. A setting of several variables can
    be scoped: the scope remembers what each named variable was just before, and ending the
    scope puts that back, last named first, so that a variable named twice ends at the value
    it had before the scope.
-/

namespace TestCluster

/-- The value of every variable that is set. -/
abbrev Environment := String → Option String

namespace Environment

/-- No variable is set. -/
def empty : Environment := fun _ => none

/-- The environment with one variable changed. -/
def update (env : Environment) (name : String) (value : Option String) : Environment :=
  fun n => if n = name then value else env n

/-- A variable and the value it is to get. -/
structure Setting where
  name : String
  value : String
  deriving DecidableEq, Repr

/-- Whether the system takes the setting: a name is not empty and holds no `=`, and neither
    name nor value holds a NUL. -/
def Setting.IsAccepted (s : Setting) : Prop :=
  s.name ≠ "" ∧ '=' ∉ s.name.toList ∧ '\x00' ∉ s.name.toList ∧ '\x00' ∉ s.value.toList

instance (s : Setting) : Decidable s.IsAccepted :=
  inferInstanceAs (Decidable (_ ∧ _ ∧ _ ∧ _))

/-- Sets the variables one after another; nothing when the system refuses one of them. -/
def apply (env : Environment) (settings : List Setting) : Option Environment :=
  settings.foldlM
    (fun e s => if s.IsAccepted then some (e.update s.name (some s.value)) else none) env

/-- What the variables of a scope were before it, in the order in which it named them. -/
structure Scope where
  previous : List (String × Option String)
  deriving DecidableEq, Repr

/-- Sets the variables and remembers what each was before. -/
def enter (env : Environment) (settings : List Setting) : Option (Environment × Scope) :=
  (env.apply settings).map fun e => (e, ⟨settings.map fun s => (s.name, env s.name)⟩)

/-- Puts back what the scope remembers, last named first. -/
def leave (env : Environment) (scope : Scope) : Environment :=
  scope.previous.foldr (fun (name, value) e => e.update name value) env

end Environment

end TestCluster
