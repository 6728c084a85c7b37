import LogSift.Error
import LogSift.Settings.Json
import LogSift.Yaml.Document

/-!
Settings in YAML: a mapping with the same fields as in JSON. A text without document, or with a
document that says nothing, gives the usual settings.
-/

namespace LogSift.Settings

open Std (TreeMap)
open Yaml (Document Node Problem)

/-- Sets the field of a name. Other names change nothing. -/
def setYaml? (doc : Document) (settings : Settings) (name : String) (value : Node) :
    Option Settings :=
  match name with
  | "use_default_patterns" => (doc.asBool? value).map fun builtin => { settings with builtin }
  | "named_captures_only" => (doc.asBool? value).map fun namedOnly => { settings with namedOnly }
  | "max_expansion_depth" => (doc.asNat? value).map fun maxDepth => { settings with maxDepth }
  | "size_limit" => do
    if ← doc.isNull? value then some { settings with sizeLimit := none }
    else (doc.asNat? value).map fun limit => { settings with sizeLimit := some limit }
  | "patterns" =>
    (doc.asTexts? value).map fun definitions =>
      { settings with patterns := TreeMap.ofList definitions }
  | _ => some settings

/-- The fields that a document gives, by name. -/
def fieldsOf? (doc : Document) : Option (List (String × Node)) := do
  (← doc.asMembers? doc.root).mapM fun (name, value) => do return (← doc.asText? name, value)

/-- The settings of a document. -/
def ofDocument (doc : Document) : Except Problem Settings :=
  match fieldsOf? doc with
  | none => .error .unexpectedType
  | some fields =>
    if hasRepeatedField (fields.map (·.1)) then .error .repeatedField
    else
      match fields.foldlM (fun settings (name, value) => setYaml? doc settings name value) {} with
      | some settings => .ok settings
      | none => .error .unexpectedType

/-- Reads settings in YAML. -/
def ofYaml (text : String) : Except Error Settings :=
  let read := do
    match ← Document.ofText text with
    | some doc => ofDocument doc
    | none => .ok {}
  read.mapError fun problem => .yaml problem.message

end LogSift.Settings
