import TestCluster.Yaml.Char

/-!
# YAML tokens — the words of a YAML text

    Besides the characters that show in the text there are tokens that only its columns
    show: a block collection starts where something stands further right than before, and
    ends where something stands further left.
-/

namespace TestCluster.Yaml

/-- How a scalar is written. -/
inductive ScalarStyle
  | plain
  | singleQuoted
  | doubleQuoted
  | literal
  | folded
  deriving DecidableEq, Repr

/-- A word of a YAML text. -/
inductive Token
  | versionDirective (major minor : Nat)
  | tagDirective (handle start : List Char)
  | documentStart
  | documentEnd
  | blockSequenceStart
  | blockMappingStart
  | blockEnd
  | flowSequenceStart
  | flowSequenceEnd
  | flowMappingStart
  | flowMappingEnd
  | blockEntry
  | flowEntry
  | key
  | value
  | alias (name : List Char)
  | anchor (name : List Char)
  | tag (handle suffix : List Char)
  | scalar (style : ScalarStyle) (text : List Char)
  deriving DecidableEq, Repr

/-- A piece read off the front of a text: what it says, the text after it, and the place
    where that text starts. -/
structure Piece (α : Type) where
  value : α
  rest : List Char
  position : Position
  deriving Repr

end TestCluster.Yaml
