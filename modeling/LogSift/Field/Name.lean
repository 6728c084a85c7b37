/-!
Names of fields and names of capture groups. Field names are often dotted, group names cannot
be: every dot is written as a placeholder of three underscores, and read back from it.
-/

namespace LogSift.FieldName

/-- What a dot becomes in a group name. -/
def placeholder : String := "___"

def encodeChars : List Char → List Char
  | [] => []
  | '.' :: rest => '_' :: '_' :: '_' :: encodeChars rest
  | c :: rest => c :: encodeChars rest

/-- Reads placeholders from left to right, each where the one before it ended or later. -/
def decodeChars : List Char → List Char
  | [] => []
  | '_' :: '_' :: '_' :: rest => '.' :: decodeChars rest
  | c :: rest => c :: decodeChars rest

/-- The group name of a field. -/
def encode (name : String) : String := .ofList (encodeChars name.toList)

/-- The field name of a group. -/
def decode (group : String) : String := .ofList (decodeChars group.toList)

/-- Is the name lost in encoding: does its group name decode to another name? -/
def isReserved (name : String) : Bool := decode (encode name) != name

end LogSift.FieldName
