import KeyCluster.Text.Basic

/-! The marks and texts that a YAML document is made of. -/

namespace KeyCluster.Yaml

/-- A line that says how the document after it is written. -/
inductive Directive where
  | version (major minor : Nat)
  | handle (handle expansion : String)
  | other
  deriving DecidableEq, Repr

/-- A mark or a text. Where a block begins and ends is told by indentation, and a key by its colon. -/
inductive Token where
  | directive (directive : Directive)
  | documentStart
  | documentEnd
  | blockListStart
  | blockMapStart
  | blockEnd
  | flowListStart
  | flowListEnd
  | flowMapStart
  | flowMapEnd
  | blockEntry
  | flowEntry
  | key
  | value
  /-- A node that stands elsewhere too. -/
  | alias (name : String)
  /-- The name under which a node can stand elsewhere too. -/
  | anchor (name : String)
  /-- The tag of a node: perhaps a handle, and what follows it. -/
  | tag (handle : Option String) (suffix : String)
  /-- A text, and whether it is written without quotes. -/
  | scalar (text : Text) (plain : Bool)
  deriving DecidableEq, Repr

end KeyCluster.Yaml
