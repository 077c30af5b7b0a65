import RuleLint.Yaml.Cursor

namespace RuleLint.Yaml

inductive ScalarStyle where
  | plain
  | singleQuoted
  | doubleQuoted
  | literal
  | folded
deriving DecidableEq, Repr

structure ScalarText where
  style : ScalarStyle
  text : String
deriving DecidableEq, Repr

inductive TokenKind where
  | streamEnd
  | version (major minor : Nat)
  | tagHandle (handle stem : String)
  | documentStart
  | documentEnd
  | blockSequenceStart
  | blockMappingStart
  | blockEnd
  | flowSequenceStart
  | flowSequenceEnd
  | flowMappingStart
  | flowMappingEnd
  | blockEntry
  | flowEntry
  | key
  | value
  | alias (name : String)
  | anchor (name : String)
  | tag (handle suffix : String)
  | scalar (content : ScalarText)
deriving DecidableEq, Repr

structure Token where
  kind : TokenKind
  mark : Mark
deriving DecidableEq, Repr

end RuleLint.Yaml
