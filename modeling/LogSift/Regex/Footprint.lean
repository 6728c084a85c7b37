import LogSift.Regex.Engine
import LogSift.Regex.Texts

/-!
An engine to run programs with. It goes by the memory that the states of an automaton take up, in bytes,
worked out before any state is built. The automaton reads bytes: a set beyond ASCII takes several states
for each range, and repetitions are written out. No theorem about all engines rests on these figures.
-/

namespace LogSift.Regex

namespace Expr

/-- The bytes of one state. -/
def stateBytes : Nat := 32

/-- The bytes of a state with two ways on. -/
def forkBytes : Nat := stateBytes + 8

/-- The bytes for a set. A character takes a state for each of its bytes. A set of ASCII takes two
    states, with a way for each range, and about three more for every other range. -/
def setBytes (s : Unicode.CharSet) : Nat :=
  match s.ranges with
  | [(low, high)] =>
    if low = high then stateBytes * (Char.ofNat low).utf8Size else rangeBytes s
  | _ => rangeBytes s
where
  rangeBytes (s : Unicode.CharSet) : Nat :=
    let wide := (s.ranges.filter fun r => 128 ≤ r.2).length
    let reach := (s.ranges.filter fun r => r.1 < 0x10000 ∧ 0x10000 ≤ r.2).length
    2 * stateBytes + 8 * s.ranges.length + 3 * stateBytes * wide + 12 * stateBytes * reach

/-- The bytes for an expression. -/
def footprint : Expr → Nat
  | empty | look _ => stateBytes
  | set s => setBytes s
  | seq a b => a.footprint + b.footprint
  | alt a b => a.footprint + b.footprint + forkBytes
  | repeated min none _ body => (if min = 0 then 1 else min) * body.footprint + forkBytes
  | repeated min (some max) _ body =>
    max * body.footprint + if min = max then 0 else (max - min) * forkBytes + stateBytes
  | capture _ _ body => body.footprint + 2 * stateBytes

/-- The bytes of what stands around every expression: the search for its beginning, the whole
    match, and its end. -/
def frameBytes : Nat := 2 * stateBytes + 8 + forkBytes + 3 * stateBytes

end Expr

/-- What is wrong with a text. -/
def Error.phrase : Error → String
  | unclosedGroup => "unclosed group"
  | unopenedGroup => "unopened group"
  | emptyGroupName => "empty capture group name"
  | invalidGroupName => "invalid capture group character"
  | duplicateGroupName => "duplicate capture group name"
  | invalidFlag => "unrecognized flag"
  | lookAround => "look-around, including look-ahead and look-behind, is not supported"
  | nothingToRepeat => "repetition operator missing expression"
  | invalidRepetition => "invalid repetition count range"
  | unfinishedEscape => "incomplete escape sequence, reached end of pattern prematurely"
  | unknownEscape => "unrecognized escape sequence"
  | invalidHex => "invalid hexadecimal digit"
  | unknownProperty => "Unicode property not found"
  | unclosedClass => "unclosed character class"
  | invalidClass => "invalid escape sequence found in character class"
  | invalidRange => "invalid character class range"
  | brokenCharacter => "pattern can match invalid UTF-8"
  | tooDeep => "exceeds the limit of nesting"
  | tooLarge limit => "compiled regex exceeds size limit of " ++ toString limit ++ " bytes"

/-- An engine that looks for a few short texts as they are, and keeps the automata of all other
    expressions within the limit. -/
instance footprints : Engine where
  fits e limit := e.footprint + Expr.frameBytes ≤ limit || e.isFewTexts
  explain source e := "error in " ++ source ++ ": " ++ e.phrase
  fits_group _ := rfl

end LogSift.Regex
