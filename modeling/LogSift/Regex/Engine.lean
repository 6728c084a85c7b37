import LogSift.Regex.Error
import LogSift.Regex.Expr

/-!
What is left to the engine that runs regular expressions: which automata are small enough for a limit,
and how it words a refusal. Whatever compiles an expression takes an engine, so what holds of matchers
holds with every engine.
-/

namespace LogSift.Regex

/-- The size limit where none is given, in bytes. -/
def Expr.defaultLimit : Nat := 10 * 1024 * 1024

/-- An engine for regular expressions. -/
class Engine where
  /-- Does the automaton of an expression stay within a number of bytes? -/
  fits : Expr → Nat → Bool
  /-- How the refusal of a text is worded. -/
  explain : String → Error → String
  /-- A group of nothing is no large expression, whatever its name. -/
  fits_group : ∀ name, fits (.capture 1 (some name) .empty) Expr.defaultLimit = true

end LogSift.Regex
