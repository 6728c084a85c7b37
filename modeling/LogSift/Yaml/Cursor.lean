import LogSift.Yaml.Problem

/-!
A place in a YAML text: what follows it, and where it is. Line breaks are those of YAML 1.1.
-/

namespace LogSift.Yaml

/-- A place in a text. -/
structure Cursor where
  rest : List Char
  index : Nat := 0
  line : Nat := 0
  column : Nat := 0
  deriving DecidableEq, Repr, Inhabited

/-- Is the character a space or a tab? -/
def isSpace (c : Char) : Bool := c == ' ' || c == '\t'

/-- Does the character break a line? -/
def isBreak (c : Char) : Bool :=
  c == '\n' || c == '\r' || c.toNat == 0x85 || c.toNat == 0x2028 || c.toNat == 0x2029

/-- May the character stand in names of anchors, handles and directives? -/
def isNameChar (c : Char) : Bool := c.isAlphanum || c == '-' || c == '_'

/-- May the character stand in a text at all? -/
def isAllowed (c : Char) : Bool :=
  let n := c.toNat
  n == 9 || n == 10 || n == 13 || (0x20 ≤ n && n ≤ 0x7E) || n == 0x85 ||
    (0xA0 ≤ n && n ≤ 0xD7FF) || (0xE000 ≤ n && n ≤ 0xFFFD) || 0x10000 ≤ n

namespace Cursor

/-- The character that many places ahead. -/
def peek (here : Cursor) (n : Nat := 0) : Option Char := here.rest[n]?

/-- Does a certain character stand at the place? -/
def is (here : Cursor) (c : Char) : Bool := here.rest.head? == some c

/-- Does the text end, or a space, tab or line break stand that many places ahead? -/
def blankOrEnd (here : Cursor) (n : Nat := 0) : Bool :=
  match here.rest[n]? with
  | none => true
  | some c => isSpace c || isBreak c

/-- Does the text end here, or the line? -/
def lineEnds (here : Cursor) : Bool :=
  match here.rest with
  | [] => true
  | c :: _ => isBreak c

/-- The place some characters ahead on the same line, which has as many. -/
def skip (here : Cursor) (n : Nat := 1) : Cursor :=
  { here with rest := here.rest.drop n, index := here.index + n, column := here.column + n }

/-- The place after a line break, and what the break contributes to a text: a newline, or the
    separator of lines or paragraphs itself. At other characters nothing changes. -/
def skipBreak (here : Cursor) : List Char × Cursor :=
  let next (rest : List Char) (n : Nat) : Cursor := ⟨rest, here.index + n, here.line + 1, 0⟩
  match here.rest with
  | '\r' :: '\n' :: rest => (['\n'], next rest 2)
  | c :: rest =>
    if !isBreak c then ([], here)
    else if c.toNat = 0x2028 ∨ c.toNat = 0x2029 then ([c], next rest 1)
    else (['\n'], next rest 1)
  | [] => ([], here)

/-- The characters of a kind from here on, and the place after them. -/
def takeWhile (here : Cursor) (p : Char → Bool) : List Char × Cursor :=
  let found := here.rest.takeWhile p
  (found, here.skip found.length)

/-- The place after spaces and tabs. -/
def skipSpace (here : Cursor) : Cursor := (here.takeWhile isSpace).2

/-- The place at the end of a line if a comment begins here. -/
def skipComment (here : Cursor) : Cursor :=
  if here.is '#' then (here.takeWhile fun c => !isBreak c).2 else here

/-- The place after a byte order mark that stands at the beginning of a line. -/
def skipByteOrderMark (here : Cursor) : Cursor :=
  if here.column == 0 && here.is '\uFEFF' then here.skip else here

/-- Does a mark of document borders stand here: three times the character at the beginning of a
    line, with blank after it? -/
def isMark (here : Cursor) (c : Char) : Bool :=
  here.column == 0 && here.rest.take 3 == [c, c, c] && here.blankOrEnd 3

/-- Does a document begin or end here by a mark? -/
def isDocumentMark (here : Cursor) : Bool := here.isMark '-' || here.isMark '.'

end Cursor

end LogSift.Yaml
