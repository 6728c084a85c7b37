import LogSift.Error
import LogSift.Json.Reading
import LogSift.Settings

/-!
Settings in JSON. An object gives fields by name, and an array gives them in order, where the last
ones may be missing. Missing fields have their usual values; a field of another type, a field
given twice and a further item are refused. Members with other names are skipped.
-/

namespace LogSift.Settings

open Std (TreeMap)

/-- The fields in order. -/
def fieldNames : List String :=
  ["use_default_patterns", "named_captures_only", "max_expansion_depth", "size_limit", "patterns"]

/-- Sets the field of a name. Other names change nothing. -/
def setJson? (settings : Settings) (name : String) (value : Json) : Option Settings :=
  match name with
  | "use_default_patterns" => value.asBool?.map fun builtin => { settings with builtin }
  | "named_captures_only" => value.asBool?.map fun namedOnly => { settings with namedOnly }
  | "max_expansion_depth" => value.asNat?.map fun maxDepth => { settings with maxDepth }
  | "size_limit" =>
    match value with
    | .null => some { settings with sizeLimit := none }
    | value => value.asNat?.map fun limit => { settings with sizeLimit := some limit }
  | "patterns" =>
    value.asTexts?.map fun definitions =>
      { settings with patterns := TreeMap.ofList definitions }
  | _ => some settings

/-- Is one of the fields given twice? -/
def hasRepeatedField (names : List String) : Bool :=
  let given := names.filter fieldNames.contains
  given.eraseDups.length != given.length

/-- Sets fields one after another. -/
def setAllJson? (members : List (String × Json)) : Option Settings :=
  if hasRepeatedField (members.map (·.1)) then none
  else members.foldlM (fun settings (name, value) => settings.setJson? name value) {}

/-- The settings of a JSON value. -/
def ofJsonValue? : Json → Option Settings
  | .object members => do
    setAllJson? (← members.mapM fun (name, value) => do return (← Json.textOf? name, value))
  | .array items =>
    if fieldNames.length < items.length then none else setAllJson? (fieldNames.zip items)
  | _ => none

/-- Reads settings in JSON. -/
def ofJson (text : String) : Except Error Settings :=
  match (Json.ofString? text).bind ofJsonValue? with
  | some settings => .ok settings
  | none => .error (.json "no settings")

end LogSift.Settings
