import LogSift.Unicode.CharSet

/-!
Regular expressions as trees. Flags, classes and case have been worked into the sets of
characters, so a tree says all there is to match.
-/

namespace LogSift.Regex

open Unicode (CharSet)

/-- What must hold at a position. Words are those of Unicode or those of ASCII. -/
inductive Look where
  | textStart
  | textEnd
  /-- After a newline or at the start; with `returns`, after a carriage return as well, but not
      between it and a newline. -/
  | lineStart (returns : Bool)
  | lineEnd (returns : Bool)
  | wordBoundary (unicode : Bool)
  | noWordBoundary (unicode : Bool)
  | wordStart (unicode : Bool)
  | wordEnd (unicode : Bool)
  /-- No word character before the position. -/
  | wordStartHalf (unicode : Bool)
  /-- No word character after the position. -/
  | wordEndHalf (unicode : Bool)
  deriving DecidableEq, Repr

/-- A regular expression. -/
inductive Expr where
  | empty
  /-- One character of a set. -/
  | set (chars : CharSet)
  | look (look : Look)
  | seq (first second : Expr)
  /-- The first expression is preferred. -/
  | alt (first second : Expr)
  /-- From `min` to `max` times, as often as possible if `greedy`, else as seldom. -/
  | repeated (min : Nat) (max : Option Nat) (greedy : Bool) (body : Expr)
  | capture (index : Nat) (name : Option String) (body : Expr)
  deriving DecidableEq, Repr, Inhabited

namespace Expr

def char (c : Char) : Expr := .set (.singleton c)

/-- May the expression match without taking up a character? -/
def canBeEmpty : Expr → Bool
  | empty | look _ => true
  | set _ => false
  | seq a b => a.canBeEmpty && b.canBeEmpty
  | alt a b => a.canBeEmpty || b.canBeEmpty
  | repeated min _ _ body => min == 0 || body.canBeEmpty
  | capture _ _ body => body.canBeEmpty

/-- Does the expression match only without taking up a character? -/
def isWidthless : Expr → Bool
  | empty | look _ => true
  | set _ => false
  | seq a b => a.isWidthless && b.isWidthless
  | alt a b => a.isWidthless && b.isWidthless
  | repeated _ _ _ body => body.isWidthless
  | capture _ _ body => body.isWidthless

/-- A repetition. What has no width is repeated at most once, and what is repeated never is
    left out with all its groups. -/
def repeatOf (min : Nat) (max : Option Nat) (greedy : Bool) (body : Expr) : Expr :=
  let min' := if body.isWidthless then Nat.min min 1 else min
  let max' := if body.isWidthless then some (Nat.min (max.getD 1) 1) else max
  if min' = 0 ∧ max' = some 0 then empty
  else if min' = 1 ∧ max' = some 1 then body
  else repeated min' max' greedy body

/-- The expressions of a list one after another. -/
def seqAll : List Expr → Expr
  | [] => empty
  | [e] => e
  | e :: rest => seq e (seqAll rest)

/-- The expressions of a list, the earlier ones preferred. -/
def altAll : List Expr → Expr
  | [] => empty
  | [e] => e
  | e :: rest => alt e (altAll rest)

/-- The groups of an expression with their numbers and names. -/
def groups : Expr → List (Nat × Option String)
  | empty | set _ | look _ => []
  | seq a b | alt a b => a.groups ++ b.groups
  | repeated _ _ _ body => body.groups
  | capture index name body => (index, name) :: body.groups

end Expr

end LogSift.Regex
