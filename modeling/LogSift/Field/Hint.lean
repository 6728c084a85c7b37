import LogSift.Decimal.Reading
import LogSift.Error
import LogSift.Field.Value

/-!
Hints: the types that tokens declare for their fields, and the conversion of captured text.
-/

namespace LogSift

/-- The declared type of a field. A word that names no type is kept and fails only when a
    field is converted by it. -/
inductive Hint where
  | text
  | int
  | float
  | bool
  | unsupported (word : String)
  deriving DecidableEq, Repr, Inhabited

namespace Hint

/-- The hint that a word of a token stands for; case counts. -/
def ofWord (word : String) : Hint :=
  if word = "string" then text
  else if word = "int" ∨ word = "long" then int
  else if word = "double" ∨ word = "float" then float
  else if word = "bool" ∨ word = "boolean" then bool
  else unsupported word

/-- The name of the hinted type. -/
def word : Hint → String
  | text => "string"
  | int => "int"
  | float => "float"
  | bool => "bool"
  | unsupported word => word

/-- What the text of a field becomes under a hint. -/
def convert (hint : Hint) (field raw : String) : Except Error Value :=
  let refuse (reason : Decimal.ReadError) : Error := .conversion field hint.word raw reason.message
  match hint with
  | text => .ok (.text raw)
  | int => ((Decimal.readInteger raw.toList).map fun n => Value.int (.ofInt n)).mapError refuse
  | float => ((Decimal.readFloat raw.toList).map Value.float).mapError refuse
  | bool => ((Decimal.readBool raw).map Value.bool).mapError refuse
  | unsupported word => .error (.typeNotProvided field word)

end Hint

end LogSift
