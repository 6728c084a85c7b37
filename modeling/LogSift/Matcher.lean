import LogSift.Expansion
import LogSift.Regex
import LogSift.Settings

/-!
Matchers: expressions that have been expanded and compiled, and what they find in texts and bytes.
Several groups may stand for one field. Of those, the last one that matched something wins.
-/

namespace LogSift

open Std (TreeMap)

/-- What a group stands for. -/
structure Capture where
  field : String
  hint : Option Hint
  deriving DecidableEq, Repr

/-- The value of a captured text. Without a hint it stays a text. -/
def Capture.convert (capture : Capture) (raw : String) : Except Error Value :=
  match capture.hint with
  | none => .ok (.text raw)
  | some hint => hint.convert capture.field raw

/-- A compiled expression. -/
structure Matcher where
  expression : String
  namedOnly : Bool
  regex : Regex
  /-- What each group stands for, by number; nothing for groups without name. -/
  captures : List (Option Capture)

namespace Matcher

/-- What the groups of an expanded expression stand for. -/
def capturesOf (expansion : Expansion) (regex : Regex) : List (Option Capture) :=
  regex.groups.toList.map (·.map fun group => ⟨expansion.fieldOf group, expansion.hintOf? group⟩)

/-- Compiles an expanded expression. -/
def ofExpansion [Regex.Engine] (expression : String) (namedOnly : Bool) (expansion : Expansion)
    (sizeLimit : Option Nat) : Except Error Matcher :=
  match Regex.ofString? expansion.source (sizeLimit.getD Regex.Expr.defaultLimit) with
  | .ok regex => .ok ⟨expression, namedOnly, regex, capturesOf expansion regex⟩
  | .error e => .error (.invalidExpression (Regex.Engine.explain expansion.source e))

/-- Expands and compiles an expression. -/
def compile [Regex.Engine] (library : Library) (expression : String) (namedOnly : Bool)
    (settings : Settings) : Except Error Matcher := do
  let expansion ← library.expand expression namedOnly settings.maxDepth
  ofExpansion expression namedOnly expansion settings.sizeLimit

/-- The regular expression. -/
def source (matcher : Matcher) : String := matcher.regex.source

/-- The fields, each once, in the order of their first groups. -/
def fieldNames (matcher : Matcher) : List String :=
  (matcher.captures.filterMap (·.map (·.field))).eraseDups

/-- The hint of a field: that of its last group that has one. -/
def hint? (matcher : Matcher) (field : String) : Option Hint :=
  ((matcher.captures.filterMap id).filter (·.field == field)).reverse.findSome? (·.hint)

variable {α β : Type}

/-- The groups that stand for fields and matched something, in order. -/
def present (matcher : Matcher) (groups : List (Option (List α))) : List (Capture × List α) :=
  (matcher.captures.zip groups).filterMap fun
    | (some capture, some raw) => if raw.isEmpty then none else some (capture, raw)
    | _ => none

/-- What each field captured: later groups replace earlier ones. -/
def fields (matcher : Matcher) (groups : List (Option (List α))) (read : List α → β) :
    TreeMap String β :=
  (matcher.present groups).foldl (fun found (capture, raw) =>
    found.insert capture.field (read raw)) ∅

/-- Puts a group in the place of the one before it of the same field, or at the end. -/
def place (capture : Capture) (raw : List α) : List (Capture × List α) → List (Capture × List α)
  | [] => [(capture, raw)]
  | (other, old) :: rest =>
    if other.field = capture.field then (capture, raw) :: rest
    else (other, old) :: place capture raw rest

/-- The group that wins for each field, in the order of the first groups that matched something. -/
def winners (matcher : Matcher) (groups : List (Option (List α))) : List (Capture × List α) :=
  (matcher.present groups).foldl (fun found (capture, raw) => place capture raw found) []

end Matcher

end LogSift
