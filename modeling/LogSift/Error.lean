import LogSift.Decimal.Notation
import LogSift.Field.Name

/-!
What can go wrong, as one type of causes, and the text each cause is reported with. Errors
either keep a matcher from being built or concern one input.
-/

namespace LogSift

/-- The causes of failure. -/
inductive Error where
  /-- A reference names a pattern without definition. -/
  | unknownPattern (name : String)
  /-- Definitions refer to each other in a circle: the path leads back to its first name. -/
  | cyclicPattern (path : List String)
  /-- References are nested more deeply than the limit. -/
  | depthExceeded (limit : Nat)
  /-- The name of a field would not come back from its group name. -/
  | reservedFieldName (name : String)
  | invalidPlaceholder (placeholder : String)
  /-- The expanded expression is no regular expression, or too large a one. -/
  | invalidExpression (detail : String)
  | notCompiled
  /-- The hint of a field is none of the known types. -/
  | typeNotProvided (field hint : String)
  /-- The text of a field is no value of the hinted type. -/
  | conversion (field hint value reason : String)
  /-- A line of a pattern listing is no definition. -/
  | invalidDefinition (line : Nat) (content : String)
  | io (detail : String)
  | yaml (detail : String)
  | json (detail : String)
  deriving DecidableEq, Repr, Inhabited

namespace Error

/-- A text between quotation marks. -/
def quoted (text : String) : String := "\"" ++ text ++ "\""

/-- The text an error is reported with. -/
def message : Error → String
  | unknownPattern name => "pattern definition " ++ quoted name ++ " unknown"
  | cyclicPattern path => "cyclic pattern definition: " ++ " -> ".intercalate path
  | depthExceeded limit => "pattern expansion exceeded the maximum depth of " ++ Decimal.showNat limit
  | reservedFieldName name =>
    "field name " ++ quoted name ++ " cannot be encoded with the dot placeholder " ++
      quoted FieldName.placeholder
  | invalidPlaceholder placeholder => "invalid dot placeholder " ++ quoted placeholder
  | invalidExpression detail => "invalid expanded expression: " ++ detail
  | notCompiled => "no expression has been compiled"
  | typeNotProvided field hint =>
    "invalid type for " ++ field ++ ": type " ++ quoted hint ++ " not provided"
  | conversion field hint value reason =>
    "cannot convert " ++ field ++ " value " ++ quoted value ++ " to " ++ hint ++ ": " ++ reason
  | invalidDefinition line content =>
    "invalid pattern definition on line " ++ Decimal.showNat line ++ ": " ++ content
  | io detail => "IO error: " ++ detail
  | yaml detail => "YAML parsing error: " ++ detail
  | json detail => "JSON parsing error: " ++ detail

/-- Does the error keep a matcher from being built? The other errors concern one input. -/
def isCompileError : Error → Bool
  | unknownPattern _ | cyclicPattern _ | depthExceeded _ | reservedFieldName _
  | invalidPlaceholder _ | invalidExpression _ => true
  | _ => false

end Error

end LogSift
