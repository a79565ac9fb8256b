import PocketScheme.Text.Basic

/-!
The tokens of a document. Indentation shows as tokens that open and close block structures.
-/

namespace PocketScheme.Yaml

/-- What a token says. -/
inductive Lexeme where
  | version (major minor : Nat)
  | tagHandle (handle : String) (expansion : Text)
  | documentStart
  | documentEnd
  | blockSequenceStart
  | blockMappingStart
  | blockEnd
  | flowSequenceStart
  | flowSequenceEnd
  | flowMappingStart
  | flowMappingEnd
  | blockEntry
  | flowEntry
  | key
  | value
  | reference (name : String)
  | anchor (name : String)
  | tag (handle : String) (suffix : Text)
  | scalar (text : String) (isPlain : Bool)
  | streamEnd
  deriving DecidableEq, Repr

/-- A lexeme and the line on which it starts, from 0. -/
structure Token where
  lexeme : Lexeme
  line : Nat
  deriving DecidableEq, Repr

end PocketScheme.Yaml
