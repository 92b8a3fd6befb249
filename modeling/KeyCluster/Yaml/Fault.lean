import KeyCluster.Value.Fault

/-! Why a text is not a YAML document, or holds a value that cannot be built. -/

namespace KeyCluster.Yaml

/-- What is wrong with the form of a document. -/
inductive Flaw where
  | unprintable
  | noToken
  | noColon
  | entryPlace
  | keyPlace
  | valuePlace
  | unopened
  | directive
  /-- A directive that came before, or of another version. -/
  | directiveUse
  | anchorName
  | tag
  | tagHandle
  | blockHead
  | unterminated
  | escape
  /-- A mark that has no place where it stands. -/
  | misplaced
  | secondDocument
  | unknownAlias
  | repeatedAnchor
  | unknownTag
  | nodeKind
  | unhashable
  | merge
  | base64
  deriving DecidableEq, Repr

/-- What a message says about a flaw. -/
def Flaw.message : Flaw → Text
  | unprintable => "special characters are not allowed"
  | noToken => "found a character that cannot start any token"
  | noColon => "could not find expected ':'"
  | entryPlace => "sequence entries are not allowed here"
  | keyPlace => "mapping keys are not allowed here"
  | valuePlace => "mapping values are not allowed here"
  | unopened => "found a closing bracket that was never opened"
  | directive => "found a malformed directive"
  | directiveUse => "found a directive that cannot be used"
  | anchorName => "expected a name of letters and digits"
  | tag => "found a malformed tag"
  | tagHandle => "found an undefined tag handle"
  | blockHead => "found a malformed block scalar header"
  | unterminated => "found an unexpected end inside a quoted scalar"
  | escape => "found an unknown escape character"
  | misplaced => "found a token that does not belong here"
  | secondDocument => "expected a single document in the stream"
  | unknownAlias => "found an undefined alias"
  | repeatedAnchor => "found a duplicate anchor"
  | unknownTag => "could not determine a constructor for a tag"
  | nodeKind => "found a tag that does not fit its node"
  | unhashable => "found an unhashable key"
  | merge => "expected a mapping for merging"
  | base64 => "failed to decode base64 data"

/-- Why a text yields no value. -/
inductive Fault where
  | malformed (flaw : Flaw)
  | value (fault : ValueFault)
  | tooDeep

end KeyCluster.Yaml
