import LogSift.Builtin.Family
import LogSift.Expansion
import LogSift.Library.Loading
import LogSift.Library.Reference

/-!
What a library can be told and asked, as data, so that one can speak of runs of commands.
-/

namespace LogSift.Library

/-- Something that a library is told or asked. -/
inductive Command where
  | define (name body : String)
  | defineAll (definitions : List (String × String))
  /-- Adds the definitions of a built-in table. -/
  | addTable (name : String)
  | remove (name : String)
  | lookup (name : String)
  | contains (name : String)
  | size
  | isEmpty
  | names
  | definitions
  | usesBuiltin
  | loadListing (text : String)
  /-- Loads a listing from a file with the given bytes, or from a file that is not there. -/
  | loadFile (bytes : Option (List UInt8))
  | loadYaml (text : String)
  | loadJson (text : String)
  | validate
  | expand (expression : String) (namedOnly : Bool) (maxDepth : Nat)
  deriving DecidableEq, Repr

/-- What a library answers. -/
inductive Reply where
  | done
  | body (found : Option String)
  | flag (b : Bool)
  | count (n : Nat)
  | added (count : Option Nat)
  | names (all : List String)
  | definitions (all : List (String × String))
  | valid
  | expansion (result : Expansion)

/-- The outcome of a load. After a failure the library is what it was. -/
def loaded (library : Library) : Except Error (Nat × Library) → Except Error Reply × Library
  | .ok (count, library) => (.ok (.count count), library)
  | .error e => (.error e, library)

/-- Obeys a command: the answer, and the library after it. -/
def obey [Regex.Engine] (library : Library) : Command → Except Error Reply × Library
  | .define name body =>
    let (old, library) := library.define name body
    (.ok (.body old), library)
  | .defineAll definitions => (.ok .done, library.defineAll definitions)
  | .addTable name =>
    match Builtin.table? name with
    | some table => (.ok (.added (some table.length)), library.defineAll table)
    | none => (.ok (.added none), library)
  | .remove name =>
    let (old, library) := library.remove name
    (.ok (.body old), library)
  | .lookup name => (.ok (.body (library.lookup? name)), library)
  | .contains name => (.ok (.flag (library.contains name)), library)
  | .size => (.ok (.count library.size), library)
  | .isEmpty => (.ok (.flag library.isEmpty), library)
  | .names => (.ok (.names library.names), library)
  | .definitions => (.ok (.definitions library.definitions), library)
  | .usesBuiltin => (.ok (.flag library.builtin), library)
  | .loadListing text => library.loaded (library.loadListing text)
  | .loadFile bytes => library.loaded (library.loadFile bytes)
  | .loadYaml text => library.loaded (library.loadYaml text)
  | .loadJson text => library.loaded (library.loadJson text)
  | .validate => (library.validate.map fun _ => .valid, library)
  | .expand expression namedOnly maxDepth =>
    ((library.expand expression namedOnly maxDepth).map .expansion, library)

/-- Obeys commands in order, and gives the library after the last one. -/
def obeyAll [Regex.Engine] (library : Library) (commands : List Command) : Library :=
  commands.foldl (fun library command => (library.obey command).2) library

end LogSift.Library
