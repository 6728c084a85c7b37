import LogSift.Json.Reading
import LogSift.Library.Listing
import LogSift.Library
import LogSift.Text.Utf8
import LogSift.Yaml.Document

/-!
Loading of definitions into a library, from listings, YAML and JSON. Loading counts what it adds;
a text that cannot be read adds nothing.
-/

namespace LogSift.Library

open Std (TreeMap)

/-- Definitions by name, where the last one of a name counts. -/
abbrev Definitions := TreeMap String String

/-- Adds definitions that were read, and counts them. -/
def install (library : Library) (definitions : List (String × String)) : Nat × Library :=
  (definitions.length, library.defineAll definitions)

/-- Loads a listing. Repeated names count each time. -/
def loadListing (library : Library) (text : String) : Except Error (Nat × Library) :=
  (Listing.read text).map library.install

/-- Loads a listing from the bytes of a file; none if there is no such file. -/
def loadFile (library : Library) (bytes : Option (List UInt8)) : Except Error (Nat × Library) :=
  match bytes.map Utf8.decodeText? with
  | none => .error (.io "no such file")
  | some none => .error (.io "not UTF-8")
  | some (some text) => library.loadListing text

/-- The definitions of a YAML text: a mapping of texts, or nothing. -/
def readYaml (text : String) : Except Error Definitions :=
  match Yaml.Document.ofText text with
  | .error problem => .error (.yaml problem.message)
  | .ok none => .ok ∅
  | .ok (some doc) =>
    match doc.asTexts? doc.root with
    | some definitions => .ok (.ofList definitions)
    | none => .error (.yaml Yaml.Problem.unexpectedType.message)

/-- Loads a YAML mapping. -/
def loadYaml (library : Library) (text : String) : Except Error (Nat × Library) :=
  (readYaml text).map fun definitions => library.install definitions.toList

/-- The definitions of a JSON text: an object of strings. -/
def readJson (text : String) : Except Error Definitions :=
  match (Json.ofString? text).bind Json.asTexts? with
  | some definitions => .ok (.ofList definitions)
  | none => .error (.json "no object of strings")

/-- Loads a JSON object. -/
def loadJson (library : Library) (text : String) : Except Error (Nat × Library) :=
  (readJson text).map fun definitions => library.install definitions.toList

end LogSift.Library
