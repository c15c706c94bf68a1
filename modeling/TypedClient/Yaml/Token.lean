/-!
# YAML tokens
-/

namespace TypedClient.Yaml

/-- How a scalar was written. -/
inductive Style where
  | plain
  | quoted
  | block
deriving DecidableEq, Repr

/-- A lexical element of a YAML stream. -/
inductive Token where
  | streamStart
  | streamEnd
  | versionDirective (major minor : Nat)
  | tagDirective (handle start : String)
  | documentStart
  | documentEnd
  | blockSequenceStart
  | blockMappingStart
  | blockEnd
  | flowSequenceStart
  | flowSequenceEnd
  | flowMappingStart
  | flowMappingEnd
  | blockEntry
  | flowEntry
  | key
  | value
  | aliasOf (name : String)
  | anchor (name : String)
  | tag (handle suffix : String)
  | scalar (text : String) (style : Style)
deriving DecidableEq, Repr

end TypedClient.Yaml
