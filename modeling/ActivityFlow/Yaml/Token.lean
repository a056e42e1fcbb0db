import ActivityFlow.Yaml.Scalar

/-!
# Tokens of a document

Collections appear among the tokens with their starts and ends, whether they were written
with brackets or by indentation.
-/
namespace ActivityFlow.Yaml

/-- A token of a document text. -/
inductive Token where
  | version (major minor : Nat)
  /-- A handle and what it abbreviates. -/
  | handle (name expansion : String)
  | documentStart
  | documentEnd
  | blockSequenceStart
  | blockMappingStart
  | blockEnd
  | flowSequenceStart
  | flowSequenceEnd
  | flowMappingStart
  | flowMappingEnd
  | blockEntry
  | flowEntry
  | key
  | value
  | alias (name : String)
  | anchor (name : String)
  /-- A tag, as a handle and the rest. -/
  | tag (handle rest : String)
  | scalar (text : String) (style : Style)
deriving DecidableEq

end ActivityFlow.Yaml
