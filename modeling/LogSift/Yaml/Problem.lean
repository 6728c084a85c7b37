/-!
Why a text is no YAML document.
-/

namespace LogSift.Yaml

inductive Problem where
  | forbiddenCharacter
  | unexpectedCharacter
  | misplacedEntry
  | misplacedKey
  | misplacedValue
  | missingValue
  | misplacedTab
  | badDirective
  | badAnchor
  | badTag
  | badHeader
  | badEscape
  | openScalar
  | unexpectedToken
  | unknownTagHandle
  | unknownAnchor
  | severalDocuments
  | unexpectedType
  | repeatedField
  deriving DecidableEq, Repr, Inhabited

/-- The problem as it is shown. -/
def Problem.message : Problem → String
  | forbiddenCharacter => "control characters are not allowed"
  | unexpectedCharacter => "found character that cannot start any token"
  | misplacedEntry => "block sequence entries are not allowed in this context"
  | misplacedKey => "mapping keys are not allowed in this context"
  | misplacedValue => "mapping values are not allowed in this context"
  | missingValue => "could not find expected ':'"
  | misplacedTab => "found a tab character that violates indentation"
  | badDirective => "invalid directive"
  | badAnchor => "did not find expected alphabetic or numeric character"
  | badTag => "invalid tag"
  | badHeader => "invalid header of a block scalar"
  | badEscape => "invalid escape in a quoted scalar"
  | openScalar => "found unexpected end of a quoted scalar"
  | unexpectedToken => "did not find expected node content"
  | unknownTagHandle => "found undefined tag handle"
  | unknownAnchor => "unknown anchor"
  | severalDocuments => "more than one document"
  | unexpectedType => "invalid type"
  | repeatedField => "duplicate field"

end LogSift.Yaml
