import LogSift.Decimal.Notation

/-!
The values of fields: texts, and what the hinted types make of them.
-/

namespace LogSift

/-- The value of a field. -/
inductive Value where
  | bool (b : Bool)
  | int (n : Int64)
  | float (x : Decimal.Binary64)
  | text (s : String)
  deriving DecidableEq, Repr, Inhabited

namespace Value

/-- The name of the kind of a value. -/
def kind : Value → String
  | bool _ => "bool"
  | int _ => "int"
  | float _ => "float"
  | text _ => "string"

/-- A value as it is shown. -/
def display : Value → String
  | bool b => if b then "true" else "false"
  | int n => Decimal.showInt n.toInt
  | float x => x.display
  | text s => s

def asText? : Value → Option String
  | text s => some s
  | _ => none

def asInt? : Value → Option Int64
  | int n => some n
  | _ => none

/-- The number of a float; whole numbers are widened. -/
def asFloat? : Value → Option Decimal.Binary64
  | float x => some x
  | int n => some (.ofInt n.toInt)
  | _ => none

def asBool? : Value → Option Bool
  | bool b => some b
  | _ => none

end Value

end LogSift
