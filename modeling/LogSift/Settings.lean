import LogSift.Library

/-!
Settings: what a session is set up with, apart from what is defined in it later.
-/

namespace LogSift

open Std (TreeMap)

structure Settings where
  /-- Do the built-in definitions answer where the user has none? -/
  builtin : Bool := true
  /-- Do only tokens that name a field capture, where nothing else is said? -/
  namedOnly : Bool := true
  /-- How deeply bodies may be nested. -/
  maxDepth : Nat := 1000
  /-- The greatest size of a regular expression, in bytes; none for the usual one. -/
  sizeLimit : Option Nat := none
  /-- Definitions that a session begins with. -/
  patterns : TreeMap String String := ∅

namespace Settings

/-- Settings under which the user's definitions are the only ones. -/
def isolated : Settings := { builtin := false }

/-- Settings under which every token captures. -/
def permissive : Settings := { namedOnly := false }

/-- Adds a definition, in place of the one that the name had. -/
def withPattern (settings : Settings) (name body : String) : Settings :=
  { settings with patterns := settings.patterns.insert name body }

/-- Adds definitions in order, so that the last one of a name counts. -/
def withPatterns (settings : Settings) (definitions : List (String × String)) : Settings :=
  definitions.foldl (fun settings (name, body) => settings.withPattern name body) settings

end Settings

/-- The library that settings describe. -/
def Library.ofSettings (settings : Settings) : Library :=
  (Library.withBuiltin settings.builtin).defineAll settings.patterns.toList

end LogSift
