import LogSift.Matcher

/-!
What matchers find in inputs, and how inputs are counted. The count goes through whatever is done with
an input: it is raised where the input has been searched, and again where a value cannot be converted.
-/

namespace LogSift

open Std (TreeMap)

/-- How many inputs there were, how many of them matched, and how many values could not be
    converted. -/
structure Tally where
  attempts : Nat := 0
  matched : Nat := 0
  failures : Nat := 0
  deriving DecidableEq, Repr

namespace Tally

/-- Counts an input that has been searched. -/
def record (tally : Tally) (matched : Bool) : Tally :=
  { tally with
    attempts := tally.attempts + 1
    matched := if matched then tally.matched + 1 else tally.matched }

/-- Counts a value that could not be converted. -/
def recordFailure (tally : Tally) : Tally := { tally with failures := tally.failures + 1 }

/-- The part of inputs that matched; zero if there were none. -/
def rate (tally : Tally) : Decimal.Binary64 :=
  if tally.attempts = 0 then .ofInt 0
  else (Decimal.Binary64.ofInt tally.matched).div (.ofInt tally.attempts)

end Tally

/-- Something that is done with a count at hand. -/
abbrev Counting := StateM Tally

/-- What comes of it, whatever has been counted before. -/
def Counting.result {α : Type} (counting : Counting α) : α := (counting.run {}).1

/-- Converts a captured text. A failure is counted. -/
def Capture.converting (capture : Capture) (raw : String) : ExceptT Error Counting Value :=
  match capture.convert raw with
  | .ok value => return value
  | .error e => do
    modify Tally.recordFailure
    throw e

namespace Matcher

variable {α : Type}

/-- Counts an input that has been searched. -/
def record (found : Bool) : Counting Unit := modify (·.record found)

/-- The values of fields: winning groups are converted in order, and the first failure ends it. -/
def values (matcher : Matcher) (groups : List (Option (List α))) (read : List α → String) :
    ExceptT Error Counting (TreeMap String Value) := do
  let converted ← (matcher.winners groups).mapM fun (capture, raw) => do
    return (capture.field, ← capture.converting (read raw))
  return .ofList converted

/-- Does the expression match anywhere in a text? -/
def test (matcher : Matcher) (text : String) : Counting Bool := do
  let found := (matcher.regex.matchText? text).isSome
  record found
  return found

def testBytes (matcher : Matcher) (bytes : List UInt8) : Counting Bool := do
  let found := (matcher.regex.matchBytes? bytes).isSome
  record found
  return found

/-- The texts of the fields in a text. There are none where it does not match. -/
def parse (matcher : Matcher) (text : String) : Counting (TreeMap String String) := do
  match matcher.regex.matchText? text with
  | none =>
    record false
    return ∅
  | some groups =>
    record true
    return matcher.fields groups String.ofList

/-- The bytes of the fields in bytes. -/
def parseBytes (matcher : Matcher) (bytes : List UInt8) :
    Counting (TreeMap String (List UInt8)) := do
  match matcher.regex.matchBytes? bytes with
  | none =>
    record false
    return ∅
  | some groups =>
    record true
    return matcher.fields groups id

/-- The values of the fields in a text. -/
def parseTyped (matcher : Matcher) (text : String) :
    Counting (Except Error (TreeMap String Value)) := do
  match matcher.regex.matchText? text with
  | none =>
    record false
    return .ok ∅
  | some groups =>
    record true
    (matcher.values groups String.ofList).run

/-- The values of the fields in bytes; what is no UTF-8 is replaced before it is converted. -/
def parseTypedBytes (matcher : Matcher) (bytes : List UInt8) :
    Counting (Except Error (TreeMap String Value)) := do
  match matcher.regex.matchBytes? bytes with
  | none =>
    record false
    return .ok ∅
  | some groups =>
    record true
    (matcher.values groups Utf8.decodeLossy).run

end Matcher

end LogSift
