import LogSift.Regex.Error
import LogSift.Regex.Expr
import LogSift.Text.Digits
import LogSift.Unicode.Folding
import LogSift.Unicode.Letter
import LogSift.Unicode.Query

/-!
The smallest parts of regular expressions: flags, blank and comments of the verbose form,
escapes, and the sets of characters that they stand for. Readers take a text and give back what
they have read and the rest of the text.
-/

namespace LogSift.Regex

open Unicode (CharSet isBlank)

/-- What the flags i, m, s, U, u, R and x say. -/
structure Flags where
  ignoreCase : Bool := false
  multiLine : Bool := false
  dotAll : Bool := false
  swapGreed : Bool := false
  unicode : Bool := true
  returns : Bool := false
  verbose : Bool := false
  deriving DecidableEq, Repr, Inhabited

namespace Flags

/-- Leaves out blank, and comments that reach to the end of the line. -/
def skipVerbose (inComment : Bool) : List Char → List Char
  | [] => []
  | c :: rest =>
    if inComment then skipVerbose (c != '\n') rest
    else if isBlank c then skipVerbose false rest
    else if c == '#' then skipVerbose true rest
    else c :: rest

/-- Leaves out what the verbose form does not read. -/
def skip (flags : Flags) (cs : List Char) : List Char :=
  if flags.verbose then skipVerbose false cs else cs

theorem length_skipVerbose_le (inComment : Bool) (cs : List Char) :
    (skipVerbose inComment cs).length ≤ cs.length := by
  induction cs generalizing inComment with
  | nil => simp [skipVerbose]
  | cons c rest ih =>
    unfold skipVerbose
    split
    · exact Nat.le_succ_of_le (ih _)
    · split
      · exact Nat.le_succ_of_le (ih _)
      · split
        · exact Nat.le_succ_of_le (ih _)
        · exact Nat.le_refl _

theorem length_skip_le (flags : Flags) (cs : List Char) : (flags.skip cs).length ≤ cs.length := by
  unfold skip
  split
  · exact length_skipVerbose_le false cs
  · exact Nat.le_refl _

/-- Sets the flag of a letter. -/
def set? (flags : Flags) (letter : Char) (value : Bool) : Option Flags :=
  match letter with
  | 'i' => some { flags with ignoreCase := value }
  | 'm' => some { flags with multiLine := value }
  | 's' => some { flags with dotAll := value }
  | 'U' => some { flags with swapGreed := value }
  | 'u' => some { flags with unicode := value }
  | 'R' => some { flags with returns := value }
  | 'x' => some { flags with verbose := value }
  | _ => none

/-- Reads the letters of flags up to a colon or a closing parenthesis. Letters after a hyphen
    take their flags away; no letter and no hyphen comes twice, and a hyphen is not last. Gives
    the flags, whether there was any letter, and the rest from its colon or parenthesis on. -/
def read (flags : Flags) (seen : List Char) : List Char → Except Error (Flags × Bool × List Char)
  | [] => .error .invalidFlag
  | c :: rest =>
    if c = ':' ∨ c = ')' then
      if seen.head? = some '-' then .error .invalidFlag else .ok (flags, !seen.isEmpty, c :: rest)
    else if seen.contains c then .error .invalidFlag
    else if c = '-' then read flags (c :: seen) rest
    else
      match flags.set? c (!seen.contains '-') with
      | none => .error .invalidFlag
      | some flags => read flags (c :: seen) rest

end Flags

/-- What one escape, or one character outside classes, stands for. -/
inductive Primitive where
  /-- A character; `asByte` says that it is written as a byte of two hexadecimal digits. -/
  | literal (c : Char) (asByte : Bool)
  | dot
  | look (look : Look)
  | digits (negated : Bool)
  | spaces (negated : Bool)
  | words (negated : Bool)
  | property (query : Unicode.Query) (negated : Bool)
  deriving DecidableEq, Repr

namespace Escape

/-- The character of a code, if the code is a scalar value. -/
def scalar? (n : Nat) : Option Char := if n.isValidChar then some (Char.ofNat n) else none

/-- Reads exactly `count` hexadecimal digits after the value `sum`. -/
def readHex (flags : Flags) (count sum : Nat) (cs : List Char) : Except Error (Nat × List Char) :=
  match count with
  | 0 => .ok (sum, cs)
  | count + 1 =>
    match cs with
    | [] => .error .unfinishedEscape
    | c :: rest =>
      match Digits.value? c with
      | none => .error .invalidHex
      | some d => readHex flags count (sum * 16 + d) (flags.skip rest)

/-- Reads characters up to a closing brace, leaving out blank in the verbose form; `fuel` bounds
    their number. Gives the characters and what follows the brace. -/
def readBraced (flags : Flags) (fuel : Nat) (cs : List Char) : Option (List Char × List Char) :=
  match fuel, flags.skip cs with
  | 0, _ => none
  | _, [] => none
  | _, '\x7d' :: rest => some ([], rest)
  | fuel + 1, c :: rest => (readBraced flags fuel rest).map fun (more, rest) => (c :: more, rest)

/-- The character that hexadecimal digits stand for. -/
def ofHexDigits (digits : List Char) : Except Error Char :=
  match (Digits.read? 16 digits).bind scalar? with
  | none => .error .invalidHex
  | some c => .ok c

/-- Reads the code of a character: digits in braces, or as many digits as the letter wants. -/
def readCode (flags : Flags) (count : Nat) (cs : List Char) :
    Except Error (Primitive × List Char) :=
  match flags.skip cs with
  | [] => .error .unfinishedEscape
  | '\x7b' :: rest =>
    match readBraced flags (rest.length + 1) rest with
    | none => .error .unfinishedEscape
    | some (digits, rest) =>
      (ofHexDigits digits).map fun c => (.literal c false, flags.skip rest)
  | cs => do
    let (n, rest) ← readHex flags count 0 cs
    match scalar? n with
    | none => .error .invalidHex
    | some c => .ok (.literal c (count == 2), rest)

/-- Splits a name at the first place where a separator stands. -/
def splitAt? (separator : List Char) : List Char → Option (List Char × List Char)
  | [] => none
  | c :: rest =>
    if separator.isPrefixOf (c :: rest) then some ([], (c :: rest).drop separator.length)
    else (splitAt? separator rest).map fun (before, after) => (c :: before, after)

/-- What the name of a property asks for: a value after an equals sign or a colon, or a bare
    name. With an exclamation mark before the equals sign it asks for what lies outside. -/
def queryOf (name : List Char) : Unicode.Query × Bool :=
  let value : List Char × List Char → Unicode.Query := fun (property, wanted) =>
    .value (.ofList property) (.ofList wanted)
  match splitAt? ['!', '='] name, splitAt? [':'] name, splitAt? ['='] name with
  | some parts, _, _ => (value parts, true)
  | none, some parts, _ => (value parts, false)
  | none, none, some parts => (value parts, false)
  | none, none, none => (.bare (.ofList name), false)

/-- Reads the name of a property: one character, or a name in braces. -/
def readProperty (flags : Flags) (negated : Bool) (cs : List Char) :
    Except Error (Primitive × List Char) :=
  match flags.skip cs with
  | [] => .error .unfinishedEscape
  | '\x7b' :: rest =>
    match readBraced flags (rest.length + 1) rest with
    | none => .error .unfinishedEscape
    | some (name, rest) =>
      let (query, outside) := queryOf name
      .ok (.property query (negated != outside), rest)
  | '\\' :: _ => .error .unknownProperty
  | c :: rest => .ok (.property (.bare (.singleton c)) negated, flags.skip rest)

/-- Characters that have a meaning of their own somewhere in expressions. -/
def isMeta (c : Char) : Bool := "\\.+*?()|[]\x7b\x7d^$#&-~".toList.contains c

/-- May the character be escaped to stand for itself? Letters and digits may not, and angle
    brackets are conditions. -/
def isEscapable (c : Char) : Bool :=
  isMeta c || (c.toNat < 128 && !c.isAlphanum && c != '<' && c != '>')

/-- Reads letters and hyphens, leaving out blank in the verbose form. -/
def readWord (flags : Flags) (fuel : Nat) (cs : List Char) : List Char × List Char :=
  match fuel, cs with
  | fuel + 1, c :: rest =>
    if c.isAlpha || c == '-' then
      let (more, rest) := readWord flags fuel (flags.skip rest)
      (c :: more, rest)
    else ([], cs)
  | _, cs => ([], cs)

/-- Reads what may follow the escape of a word boundary: the kind of boundary in braces. Braces
    that begin otherwise are left for a repetition. -/
def readBoundary (flags : Flags) (cs : List Char) : Except Error (Primitive × List Char) :=
  let plain : Primitive × List Char := (.look (.wordBoundary flags.unicode), cs)
  match cs with
  | '\x7b' :: rest =>
    match flags.skip rest with
    | [] => .error .unfinishedEscape
    | c :: more =>
      if c.isAlpha || c == '-' then
        match readWord flags (more.length + 1) (c :: more) with
        | (word, '\x7d' :: rest) =>
          if word = "start".toList then .ok (.look (.wordStart flags.unicode), rest)
          else if word = "end".toList then .ok (.look (.wordEnd flags.unicode), rest)
          else if word = "start-half".toList then .ok (.look (.wordStartHalf flags.unicode), rest)
          else if word = "end-half".toList then .ok (.look (.wordEndHalf flags.unicode), rest)
          else .error .unknownEscape
        | _ => .error .unfinishedEscape
      else .ok plain
  | _ => .ok plain

/-- Reads what follows a backslash. -/
def read (flags : Flags) : List Char → Except Error (Primitive × List Char)
  | [] => .error .unfinishedEscape
  | c :: rest =>
    let literal (n : Nat) : Except Error (Primitive × List Char) :=
      .ok (.literal (Char.ofNat n) false, rest)
    match c with
    | 'x' => readCode flags 2 rest
    | 'u' => readCode flags 4 rest
    | 'U' => readCode flags 8 rest
    | 'p' => readProperty flags false rest
    | 'P' => readProperty flags true rest
    | 'd' => .ok (.digits false, rest)
    | 'D' => .ok (.digits true, rest)
    | 's' => .ok (.spaces false, rest)
    | 'S' => .ok (.spaces true, rest)
    | 'w' => .ok (.words false, rest)
    | 'W' => .ok (.words true, rest)
    | 'a' => literal 7
    | 'f' => literal 12
    | 't' => literal 9
    | 'n' => literal 10
    | 'r' => literal 13
    | 'v' => literal 11
    | 'A' => .ok (.look .textStart, rest)
    | 'z' => .ok (.look .textEnd, rest)
    | 'b' => readBoundary flags rest
    | 'B' => .ok (.look (.noWordBoundary flags.unicode), rest)
    | '<' => .ok (.look (.wordStart flags.unicode), rest)
    | '>' => .ok (.look (.wordEnd flags.unicode), rest)
    | c => if isEscapable c then literal c.toNat else .error .unknownEscape

end Escape

namespace Flags

/-- A set with every case of its characters if case does not count. Without Unicode only ASCII
    letters have case. -/
def fold (flags : Flags) (s : CharSet) : CharSet :=
  if !flags.ignoreCase then s
  else if flags.unicode then Unicode.Folding.fold s
  else
    let letters := s.inter (.ofRanges [(65, 90), (97, 122)])
    s.union (.ofRanges (letters.ranges.flatMap fun (low, high) =>
      if low < 97 then [(low + 32, high + 32)] else [(low - 32, high - 32)]))

/-- The characters outside a set. Without Unicode these would be single bytes of characters. -/
def negate (flags : Flags) (negated : Bool) (s : CharSet) : Except Error CharSet :=
  if !negated then .ok s
  else if flags.unicode then .ok s.complement
  else .error .brokenCharacter

/-- The character of a literal. Without Unicode, a byte beyond ASCII is part of a character. -/
def literal (flags : Flags) (c : Char) (asByte : Bool) : Except Error Char :=
  if !flags.unicode && asByte && 128 ≤ c.toNat then .error .brokenCharacter else .ok c

/-- The set of digits, of blank and of the characters of words. -/
def digits (flags : Flags) : CharSet :=
  if flags.unicode then Unicode.Category.decimalNumber else .ofRange '0' '9'

def spaces (flags : Flags) : CharSet :=
  if flags.unicode then Unicode.Property.whiteSpace else .ofRanges [(9, 13), (32, 32)]

def words (flags : Flags) : CharSet :=
  if flags.unicode then Unicode.wordSet else .ofRanges [(48, 57), (65, 90), (95, 95), (97, 122)]

/-- The set of a property. -/
def property (flags : Flags) (query : Unicode.Query) (negated : Bool) : Except Error CharSet :=
  if !flags.unicode then .error .brokenCharacter
  else
    match query.resolve with
    | none => .error .unknownProperty
    | some s => flags.negate negated (flags.fold s)

/-- The characters that a dot stands for. -/
def dot (flags : Flags) : Except Error CharSet :=
  if !flags.unicode then .error .brokenCharacter
  else if flags.dotAll then .ok .all
  else if flags.returns then .ok (CharSet.all.diff (.ofChars ['\n', '\r']))
  else .ok (CharSet.all.diff (.singleton '\n'))

end Flags

end LogSift.Regex
