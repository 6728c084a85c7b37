import LogSift.Text.Digits
import LogSift.Yaml.Cursor

/-!
Scalars of YAML: plain ones, quoted ones, and block scalars. Where a plain or quoted scalar goes
on in another line, the break becomes a space, and only further breaks are kept.
-/

namespace LogSift.Yaml

/-- How a scalar is written. -/
inductive Style where
  | plain
  | singleQuoted
  | doubleQuoted
  | literal
  | folded
  deriving DecidableEq, Repr, Inhabited

namespace Scalar

/-- What stands between two words of a scalar: blank in one line, or line breaks. -/
structure Gap where
  blanks : List Char := []
  broken : Bool := false
  first : List Char := []
  more : List Char := []
  deriving DecidableEq, Repr

/-- What a gap contributes to the text of a scalar. -/
def Gap.text (gap : Gap) : List Char :=
  if !gap.broken then gap.blanks
  else if gap.first = ['\n'] then (if gap.more.isEmpty then [' '] else gap.more)
  else gap.first ++ gap.more

/-- Reads blank and line breaks. In a plain scalar, no tab may stand before the column where the
    scalar goes on. -/
def readGap (fuel : Nat) (tabLimit : Int) (here : Cursor) (gap : Gap) :
    Except Problem (Gap × Cursor) :=
  match fuel, here.rest with
  | fuel + 1, c :: _ =>
    if isSpace c then
      if gap.broken && here.column < tabLimit && c == '\t' then .error .misplacedTab
      else
        readGap fuel tabLimit here.skip
          (if gap.broken then gap else { gap with blanks := gap.blanks ++ [c] })
    else if isBreak c then
      let (text, next) := here.skipBreak
      readGap fuel tabLimit next
        (if gap.broken then { gap with more := gap.more ++ text }
         else { gap with blanks := [], broken := true, first := text })
    else .ok (gap, here)
  | _, _ => .ok (gap, here)

/-- Does a plain scalar end before the character, given the character after it? -/
def endsPlain (inFlow : Bool) (c : Char) (blankAfter : Bool) : Bool :=
  (c == ':' && blankAfter) ||
    (inFlow && (c == ',' || c == '[' || c == ']' || c == '\x7b' || c == '\x7d'))

/-- May no such character stand after a colon inside a plain scalar in a flow collection? -/
def clashesWithColon (c : Char) : Bool :=
  c == ',' || c == '?' || c == '[' || c == ']' || c == '\x7b' || c == '\x7d'

/-- Reads a word of a plain scalar: its characters, the last one first. -/
def readPlainWord (fuel : Nat) (inFlow : Bool) (here : Cursor) (word : List Char) :
    Except Problem (List Char × Cursor) :=
  match fuel, here.rest with
  | fuel + 1, c :: _ =>
    if isSpace c || isBreak c then .ok (word, here)
    else if inFlow && c == ':' && (here.peek 1).any clashesWithColon then
      .error .unexpectedCharacter
    else if endsPlain inFlow c (here.blankOrEnd 1) then .ok (word, here)
    else readPlainWord fuel inFlow here.skip (c :: word)
  | _, _ => .ok (word, here)

/-- Reads a plain scalar, words and gaps, of which `text` is read already, the last character
    first. In block context it goes on only in columns from `indent` on. Gives the text, the place
    after the scalar and its last gap, and whether that gap breaks the line. -/
def readPlain (fuel : Nat) (inFlow : Bool) (indent : Int) (here : Cursor) (text : List Char)
    (gap : Gap) : Except Problem (List Char × Cursor × Bool) :=
  match fuel with
  | 0 => .ok (text, here, gap.broken)
  | fuel + 1 =>
    if here.isDocumentMark || here.is '#' then .ok (text, here, gap.broken)
    else do
      let (word, next) ← readPlainWord (fuel + 1) inFlow here []
      let (text, gap) :=
        if word.isEmpty then (text, gap) else (word ++ gap.text.reverse ++ text, {})
      if !next.blankOrEnd || next.rest.isEmpty then return (text, next, gap.broken)
      let (gap, next) ← readGap (fuel + 1) indent next gap
      if !inFlow && next.column < indent then return (text, next, gap.broken)
      readPlain fuel inFlow indent next text gap

/-- The character of a short escape of a quoted scalar. -/
def short? (c : Char) : Option Nat :=
  match c with
  | '0' => some 0
  | 'a' => some 7
  | 'b' => some 8
  | 't' => some 9
  | '\t' => some 9
  | 'n' => some 10
  | 'v' => some 11
  | 'f' => some 12
  | 'r' => some 13
  | 'e' => some 27
  | ' ' => some 32
  | '"' => some 34
  | '/' => some 47
  | '\\' => some 92
  | 'N' => some 0x85
  | '_' => some 0xA0
  | 'L' => some 0x2028
  | 'P' => some 0x2029
  | _ => none

/-- The number of hexadecimal digits of a long escape. -/
def codeLength? (c : Char) : Option Nat :=
  match c with
  | 'x' => some 2
  | 'u' => some 4
  | 'U' => some 8
  | _ => none

/-- The character of exactly so many hexadecimal digits. -/
def ofHex? (count : Nat) (cs : List Char) : Option Char := do
  let digits := cs.take count
  if digits.length < count then none
  let n ← Digits.read? 16 digits
  if n.isValidChar then some (Char.ofNat n) else none

/-- Reads a word of a quoted scalar, up to blank or the closing mark: its characters, the last
    one first, and whether an escaped line break ends it. -/
def readQuotedWord (fuel : Nat) (single : Bool) (here : Cursor) (word : List Char) :
    Except Problem (List Char × Cursor × Bool) :=
  match fuel, here.rest with
  | fuel + 1, c :: rest =>
    if isSpace c || isBreak c then .ok (word, here, false)
    else if single then
      match c, rest with
      | '\'', '\'' :: _ => readQuotedWord fuel single (here.skip 2) ('\'' :: word)
      | '\'', _ => .ok (word, here, false)
      | c, _ => readQuotedWord fuel single here.skip (c :: word)
    else if c = '"' then .ok (word, here, false)
    else if c = '\\' then
      match rest with
      | [] => .error .badEscape
      | e :: more =>
        if isBreak e then .ok (word, here.skip.skipBreak.2, true)
        else
          match short? e, codeLength? e with
          | some n, _ => readQuotedWord fuel single (here.skip 2) (Char.ofNat n :: word)
          | none, some count =>
            match ofHex? count more with
            | some c => readQuotedWord fuel single (here.skip (2 + count)) (c :: word)
            | none => .error .badEscape
          | none, none => .error .badEscape
    else readQuotedWord fuel single here.skip (c :: word)
  | _, _ => .ok (word, here, false)

/-- Reads a quoted scalar after its opening mark; `text` is read already, the last character
    first. -/
def readQuoted (fuel : Nat) (single : Bool) (here : Cursor) (text : List Char) :
    Except Problem (List Char × Cursor) :=
  match fuel with
  | 0 => .error .openScalar
  | fuel + 1 =>
    if here.isDocumentMark || here.rest.isEmpty then .error .openScalar
    else do
      let (word, next, escaped) ← readQuotedWord (fuel + 1) single here []
      let text := word ++ text
      if next.is (if single then '\'' else '"') then return (text, next.skip)
      let (gap, next) ← readGap (fuel + 1) (-1) next { broken := escaped }
      readQuoted fuel single next (gap.text.reverse ++ text)

/-- Which line breaks at the end of a block scalar are kept. -/
inductive Chomping where
  | strip
  | clip
  | keep
  deriving DecidableEq, Repr

/-- Reads the sign of chomping. -/
def readChomping (here : Cursor) : Option (Chomping × Cursor) :=
  if here.is '+' then some (.keep, here.skip)
  else if here.is '-' then some (.strip, here.skip)
  else none

/-- Reads the digit of an indentation, which is not zero. -/
def readIncrement (here : Cursor) : Except Problem (Nat × Cursor) :=
  match here.rest with
  | c :: _ =>
    if c = '0' then .error .badHeader
    else if c.isDigit then .ok (c.toNat - '0'.toNat, here.skip)
    else .ok (0, here)
  | [] => .ok (0, here)

/-- Reads the rest of the line of a block scalar's sign: chomping and indentation in either
    order, a comment, and the line break. -/
def readHeader (here : Cursor) : Except Problem (Chomping × Nat × Cursor) := do
  let (chomping, increment, here) ←
    match readChomping here with
    | some (chomping, here) => do
      let (increment, here) ← readIncrement here
      pure (chomping, increment, here)
    | none => do
      let (increment, here) ← readIncrement here
      match if increment = 0 then none else readChomping here with
      | some (chomping, here) => pure (chomping, increment, here)
      | none => pure (.clip, increment, here)
  let here := here.skipSpace.skipComment
  if !here.lineEnds then .error .badHeader else .ok (chomping, increment, here.skipBreak.2)

/-- Reads indentation and empty lines. With `indent` zero the indentation is still unknown, and
    `widest` is the widest one seen. Gives the breaks, the widest column and the place. -/
def readEmptyLines (fuel indent widest : Nat) (here : Cursor) (breaks : List Char) :
    Except Problem (List Char × Nat × Cursor) :=
  match fuel with
  | 0 => .ok (breaks, widest, here)
  | fuel + 1 =>
    let spaces := (here.rest.takeWhile (· == ' ')).length
    let here := here.skip (if indent = 0 then spaces else min spaces (indent - here.column))
    let widest := max widest here.column
    if (indent = 0 ∨ here.column < indent) ∧ here.is '\t' then .error .misplacedTab
    else if here.lineEnds && !here.rest.isEmpty then
      let (text, next) := here.skipBreak
      readEmptyLines fuel indent widest next (breaks ++ text)
    else .ok (breaks, widest, here)

/-- Reads the lines of a block scalar. `text` is read already, the last character first;
    `lastBreak` is the break of the line before, `breaks` those of empty lines after it, and
    `blankBefore` says whether the line before began with blank. -/
def readLines (fuel indent : Nat) (folded : Bool) (here : Cursor) (text lastBreak breaks : List Char)
    (blankBefore : Bool) : Except Problem (List Char × List Char × List Char × Cursor) :=
  match fuel with
  | 0 => .ok (text, lastBreak, breaks, here)
  | fuel + 1 =>
    if here.column != indent || here.rest.isEmpty then .ok (text, lastBreak, breaks, here)
    else do
      let blank := (here.peek).any isSpace
      let lead :=
        if folded ∧ lastBreak = ['\n'] ∧ !blankBefore ∧ !blank then
          (if breaks.isEmpty then [' '] else breaks)
        else lastBreak ++ breaks
      let (line, next) := here.takeWhile fun c => !isBreak c
      let (lastBreak, next) := next.skipBreak
      let (breaks, _, next) ← readEmptyLines (fuel + 1) indent 0 next []
      readLines fuel indent folded next (line.reverse ++ lead.reverse ++ text) lastBreak breaks blank

/-- Reads a block scalar after its sign, inside a block with the given indentation. -/
def readBlock (folded : Bool) (outer : Int) (here : Cursor) :
    Except Problem (List Char × Cursor) := do
  let (chomping, increment, here) ← readHeader here
  let given : Nat := if increment = 0 then 0 else (max outer 0).toNat + increment
  let fuel := here.rest.length + 1
  let (breaks, widest, here) ← readEmptyLines fuel given 0 here []
  let indent := if given = 0 then max widest (max (outer + 1) 1).toNat else given
  let (text, lastBreak, breaks, here) ← readLines fuel indent folded here [] [] breaks false
  let tail :=
    match chomping with
    | .strip => []
    | .clip => lastBreak
    | .keep => lastBreak ++ breaks
  return ((tail.reverse ++ text), here)

end Scalar

end LogSift.Yaml
