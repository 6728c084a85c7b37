import LogSift.Decimal.Notation
import LogSift.Error
import LogSift.Field.Value
import LogSift.Json.Reading

/-!
The values of fields in JSON. A value is written bare, and read back by what it looks like:
truth values, whole numbers of 64 bits, other numbers, and strings. A list of values is an array of
what its values are written as.
-/

namespace LogSift.Value

/-- The JSON text of a value. -/
def toJson : Value → String
  | bool b => if b then "true" else "false"
  | int n => Decimal.showInt n.toInt
  | float x => x.json
  | text s => .ofList (Json.Quoted.write s.toList)

/-- A whole number that fits 64 bits with a sign; a negative zero does not count as one. -/
def wholeOf? (n : Json.Number) : Option Int64 :=
  let value : Int := if n.negative then -(n.magnitude : Int) else n.magnitude
  if n.isWhole ∧ Int64.minValue.toInt ≤ value ∧ value ≤ Int64.maxValue.toInt ∧ !(n.negative ∧ value = 0) then
    some (.ofInt value)
  else none

/-- A JSON document as a value of each kind. -/
def boolOf? : Json → Option Value
  | .bool b => some (bool b)
  | _ => none

def intOf? : Json → Option Value
  | .number n => (wholeOf? n).map int
  | _ => none

def floatOf? : Json → Option Value
  | .number n => n.asFloat?.map float
  | _ => none

def textOf? : Json → Option Value
  | .string codes => (Json.textOf? codes).map text
  | _ => none

/-- The value that a JSON document stands for: the kinds are tried in order, and the first one that
    the document can be counts. So a number is whole if it can be. -/
def ofJson? (json : Json) : Option Value :=
  boolOf? json <|> intOf? json <|> floatOf? json <|> textOf? json

/-- Reads the JSON text of a value. -/
def readJson (source : String) : Except Error Value :=
  match (Json.ofString? source).bind ofJson? with
  | some value => .ok value
  | none => .error (.json "not a boolean, number or string")

/-- The JSON text of a list of values. -/
def listToJson (values : List Value) : String :=
  "[" ++ ",".intercalate (values.map toJson) ++ "]"

/-- The values that a JSON document lists. One item that stands for no value spoils the list. -/
def listOfJson? : Json → Option (List Value)
  | .array items => items.mapM ofJson?
  | _ => none

/-- Reads the JSON text of a list of values. -/
def readJsonList (source : String) : Except Error (List Value) :=
  match (Json.ofString? source).bind listOfJson? with
  | some values => .ok values
  | none => .error (.json "not a list of booleans, numbers and strings")

end LogSift.Value
