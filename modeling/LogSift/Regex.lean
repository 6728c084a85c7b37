import LogSift.Regex.Engine
import LogSift.Regex.Reading
import LogSift.Regex.Search

/-!
Regular expressions, read from a text once and then matched against texts and bytes.
-/

namespace LogSift

/-- A regular expression that is ready for matching. -/
structure Regex where
  source : String
  /-- The names of the groups, by number; the group with the number 0 is the whole match. -/
  groups : Array (Option String)
  code : Array Regex.Instr

namespace Regex

/-- The names of groups by number, from the numbers and names found in an expression. Groups that
    an expression leaves out have no name, and none are counted after the last one found. -/
def groupNames (found : List (Nat × Option String)) : Array (Option String) :=
  let count := (found.map (·.1)).foldr max 0 + 1
  found.foldl (fun names (index, name) => names.set! index name) (.replicate count none)

/-- Reads a regular expression whose automaton takes up at most `limit` bytes. -/
def ofString? [Engine] (source : String) (limit : Nat := Expr.defaultLimit) :
    Except Error Regex := do
  let expr ← Reader.read source.toList
  if Engine.fits expr limit then .ok ⟨source, groupNames expr.groups, expr.program⟩
  else .error (.tooLarge limit)

/-- Where a group begins and ends. -/
abbrev Span := Nat × Nat

/-- The spans of groups by number; a group that takes no part in the match has none. -/
def spans (slots : Slots) (count : Nat) : List (Option Span) :=
  (List.range count).map fun i =>
    match slots[2 * i]?.join, slots[2 * i + 1]?.join with
    | some start, some stop => some (start, stop)
    | _, _ => none

/-- The spans of the groups of the first match. -/
def match? (regex : Regex) (s : Subject) : Option (List (Option Span)) :=
  (Search.first? regex.code (2 * regex.groups.size) s).map (spans · regex.groups.size)

/-- The groups of the first match in a text, as pieces of the text. -/
def matchText? (regex : Regex) (text : String) : Option (List (Option (List Char))) :=
  let cs := text.toList.toArray
  (regex.match? (.ofText cs)).map fun spans =>
    spans.map (·.map fun (start, stop) => (cs.extract start stop).toList)

/-- The groups of the first match in bytes, as pieces of the bytes. -/
def matchBytes? (regex : Regex) (bytes : List UInt8) : Option (List (Option (List UInt8))) :=
  let all := bytes.toArray
  (regex.match? (.ofBytes bytes)).map fun spans =>
    spans.map (·.map fun (start, stop) => (all.extract start stop).toList)

end Regex

end LogSift
