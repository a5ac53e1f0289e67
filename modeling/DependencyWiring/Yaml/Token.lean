import DependencyWiring.Yaml.Refusal

/-!
# Tokens of YAML

The marks, scalars and directives of a text, and the starts and ends of blocks that only the
indentation shows.
-/
namespace DependencyWiring.Yaml

inductive TokenKind where
  | streamStart
  | streamEnd
  | versionDirective
  | tagDirective (handle uri : String)
  | documentStart
  | documentEnd
  | blockSequenceStart
  | blockMappingStart
  | blockEnd
  | flowSequenceStart
  | flowSequenceEnd
  | flowMappingStart
  | flowMappingEnd
  | blockEntry
  | flowEntry
  | key
  | value
  | anchorRef (name : String)
  | anchor (name : String)
  | tag (handle suffix : String)
  | scalar (text : String)
  deriving DecidableEq, Repr, Inhabited

structure Token where
  mark : Mark
  kind : TokenKind
  deriving DecidableEq, Repr, Inhabited

end DependencyWiring.Yaml
