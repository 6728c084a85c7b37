import LogSift.Yaml.Scalar

/-!
The tokens of a YAML text. A key in front of a colon is recognised only at the colon: its token,
and that of the mapping it may begin, are then put in before what has been read of the key. Such
keys stay in one line and are at most 1024 characters long.
-/

namespace LogSift.Yaml

inductive Token where
  | version (major minor : Nat)
  | handle (name expansion : String)
  | documentStart
  | documentEnd
  | blockSequence
  | blockMapping
  | blockEnd
  | flowSequence
  | flowSequenceEnd
  | flowMapping
  | flowMappingEnd
  | blockEntry
  | flowEntry
  | key
  | value
  | aliasOf (name : String)
  | anchor (name : String)
  | tag (handle suffix : String)
  | scalar (text : String) (style : Style)
  deriving DecidableEq, Repr, Inhabited

/-- A place where a key may have begun: the number of tokens before it, and whether there must be
    a colon after it because nothing else could stand in its column. -/
structure PossibleKey where
  number : Nat
  index : Nat
  line : Nat
  column : Nat
  required : Bool
  deriving DecidableEq, Repr

/-- What has been read of a text: its tokens so far, the indentation of the open blocks, the
    innermost first, and for every open flow collection and the block around them the possible
    key. -/
structure Lexer where
  here : Cursor
  tokens : Array Token := #[]
  indent : Int := -1
  indents : List Int := []
  keyAllowed : Bool := true
  key : Option PossibleKey := none
  /-- The possible keys of the collections around the innermost one. -/
  outerKeys : List (Option PossibleKey) := []
  deriving Repr

namespace Lexer

/-- Is the place inside a flow collection? -/
def inFlow (lexer : Lexer) : Bool := !lexer.outerKeys.isEmpty

def push (lexer : Lexer) (token : Token) (here : Cursor) : Lexer :=
  { lexer with here, tokens := lexer.tokens.push token }

/-- Opens a block at a column to the right of the indentation, with its token at a place among
    the tokens. -/
def indentTo (lexer : Lexer) (column : Nat) (number : Nat) (token : Token) : Lexer :=
  if lexer.inFlow ∨ column ≤ lexer.indent then lexer
  else
    { lexer with
      indents := lexer.indent :: lexer.indents
      indent := column
      tokens := lexer.tokens.insertIdx! number token }

/-- Closes the blocks to the right of a column. -/
def dedent (fuel : Nat) (lexer : Lexer) (column : Int) : Lexer :=
  match fuel with
  | 0 => lexer
  | fuel + 1 =>
    if lexer.inFlow ∨ lexer.indent ≤ column then lexer
    else
      dedent fuel
        { lexer with
          tokens := lexer.tokens.push .blockEnd
          indent := lexer.indents.headD (-1)
          indents := lexer.indents.tail } column

def dedentTo (lexer : Lexer) (column : Int) : Lexer :=
  dedent (lexer.indents.length + 1) lexer column

/-- Gives up the possible key. -/
def dropKey (lexer : Lexer) : Except Problem Lexer :=
  if lexer.key.any (·.required) then .error .missingValue else .ok { lexer with key := none }

/-- Notes that a key may begin here. -/
def noteKey (lexer : Lexer) : Except Problem Lexer :=
  if !lexer.keyAllowed then .ok lexer
  else do
    let here := lexer.here
    let required := !lexer.inFlow && lexer.indent == here.column
    let lexer ← lexer.dropKey
    .ok { lexer with
      key := some ⟨lexer.tokens.size, here.index, here.line, here.column, required⟩ }

/-- Is a possible key in an earlier line, or too far back? -/
def isStale (here : Cursor) (key : PossibleKey) : Bool :=
  key.line < here.line || key.index + 1024 < here.index

/-- Gives up the possible keys that are stale. -/
def dropStale (lexer : Lexer) : Except Problem Lexer :=
  let stale (key : Option PossibleKey) : Bool := key.any (isStale lexer.here)
  let fresh (key : Option PossibleKey) : Option PossibleKey := if stale key then none else key
  if (lexer.key :: lexer.outerKeys).any fun key => stale key && key.any (·.required) then
    .error .missingValue
  else
    .ok { lexer with key := fresh lexer.key, outerKeys := lexer.outerKeys.map fresh }

/-- Leaves out blank, comments and line breaks. Tabs count as blank only where no key may begin.
    In block context a new line allows a key. A byte order mark in front of a line is left out as
    well, but takes up a column. -/
def skipBlank (fuel : Nat) (lexer : Lexer) : Lexer :=
  match fuel with
  | 0 => lexer
  | fuel + 1 =>
    let tabs := lexer.inFlow || !lexer.keyAllowed
    let here := lexer.here.skipByteOrderMark
    let here := (here.takeWhile fun c => c == ' ' || (tabs && c == '\t')).2.skipComment
    if here.lineEnds && !here.rest.isEmpty then
      skipBlank fuel
        { lexer with here := here.skipBreak.2, keyAllowed := lexer.keyAllowed || !lexer.inFlow }
    else { lexer with here }

/-- Reads a run of digits of at most nine. -/
def readVersionPart (here : Cursor) : Except Problem (Nat × Cursor) :=
  let (digits, next) := here.takeWhile Char.isDigit
  if digits.isEmpty ∨ 9 < digits.length then .error .badDirective
  else .ok (Digits.decimal 0 digits, next)

/-- The least character that takes up a number of bytes. -/
def shortest (width : Nat) : Nat :=
  match width with
  | 2 => 0x80
  | 3 => 0x800
  | 4 => 0x10000
  | _ => 0

/-- Reads the bytes of a character written with percent signs, two digits a byte. A character in
    more bytes than it takes is no character that a known tag has. -/
def readPercent (here : Cursor) : Except Problem (Char × Cursor) :=
  let byte? (cs : List Char) : Option Nat :=
    match cs with
    | '%' :: a :: b :: _ => Digits.read? 16 [a, b]
    | _ => none
  match byte? here.rest with
  | none => .error .badTag
  | some first =>
    let width := if first < 0x80 then 1 else if first < 0xC0 then 0 else if first < 0xE0 then 2
      else if first < 0xF0 then 3 else if first < 0xF8 then 4 else 0
    let tails := (List.range (width - 1)).mapM fun i => do
      let b ← byte? (here.rest.drop (3 * (i + 1)))
      if 0x80 ≤ b ∧ b < 0xC0 then some (b - 0x80) else none
    match tails with
    | none => .error .badTag
    | some tails =>
      if width = 0 then .error .badTag
      else
        let lead := if width = 1 then first else first % Nat.pow 2 (7 - width)
        let n := tails.foldl (fun sum b => sum * 64 + b) lead
        let c := if n < shortest width then '\uFFFD' else Char.ofNat n
        .ok (c, here.skip (3 * width))

/-- May the character stand in a tag? Commas and brackets may only where the tag has brackets of
    its own. -/
def isTagChar (enclosed : Bool) (c : Char) : Bool :=
  isNameChar c || ";/?:@&=+$.%!~*'()".contains c || (enclosed && (c == ',' || c == '[' || c == ']'))

/-- Reads characters of a tag, the last one read first. -/
def readTagChars (fuel : Nat) (enclosed : Bool) (here : Cursor) (text : List Char) :
    Except Problem (List Char × Cursor) :=
  match fuel, here.rest with
  | fuel + 1, c :: _ =>
    if !isTagChar enclosed c then .ok (text, here)
    else if c = '%' then do
      let (c, next) ← readPercent here
      readTagChars fuel enclosed next (c :: text)
    else readTagChars fuel enclosed here.skip (c :: text)
  | _, _ => .ok (text, here)

/-- Reads a handle: an exclamation mark, a name, and another exclamation mark if there is one. -/
def readHandle (here : Cursor) : Except Problem (List Char × Cursor) :=
  if !here.is '!' then .error .badTag
  else
    let (name, next) := here.skip.takeWhile isNameChar
    if next.is '!' then .ok ('!' :: name ++ ['!'], next.skip) else .ok ('!' :: name, next)

/-- Reads a directive up to the end of its line. -/
def readDirective (here : Cursor) : Except Problem (Token × Cursor) := do
  let (name, here) := here.skip.takeWhile isNameChar
  if name.isEmpty || !here.blankOrEnd then .error .badDirective
  else
    let (token, here) ←
      if name = "YAML".toList then do
        let (major, here) ← readVersionPart here.skipSpace
        if !here.is '.' then .error .badDirective
        else
          let (minor, here) ← readVersionPart here.skip
          pure (Token.version major minor, here)
      else if name = "TAG".toList then do
        let (handle, here) ← readHandle here.skipSpace
        if handle != ['!'] && (handle.length < 2 || handle.getLast? != some '!') then
          .error .badDirective
        else if !here.rest.head?.any isSpace then .error .badDirective
        else
          let here := here.skipSpace
          let (text, here) ← readTagChars (here.rest.length + 1) true here []
          if text.isEmpty || !here.blankOrEnd then .error .badDirective
          else pure (Token.handle (.ofList handle) (.ofList text.reverse), here)
      else .error .badDirective
    let here := here.skipSpace.skipComment
    if !here.lineEnds then .error .badDirective else .ok (token, here.skipBreak.2)

/-- Reads the name of an anchor or alias. -/
def readName (here : Cursor) : Except Problem (String × Cursor) :=
  let (name, next) := here.skip.takeWhile isNameChar
  if name.isEmpty || !(next.blankOrEnd || next.rest.head?.any ("?:,]\x7d%@`".contains ·)) then
    .error .badAnchor
  else .ok (.ofList name, next)

/-- Reads a tag: one in angle brackets, one with a handle, or one without. -/
def readTag (inFlow : Bool) (here : Cursor) : Except Problem (Token × Cursor) := do
  let fuel := here.rest.length + 1
  let (handle, suffix, next) ←
    if here.peek 1 == some '<' then do
      let (text, next) ← readTagChars fuel true (here.skip 2) []
      if text.isEmpty || !next.is '>' then .error .badTag
      else pure ([], text.reverse, next.skip)
    else do
      let (handle, next) ← readHandle here
      if 2 ≤ handle.length && handle.getLast? == some '!' then do
        let (text, next) ← readTagChars fuel false next []
        if text.isEmpty then .error .badTag else pure (handle, text.reverse, next)
      else do
        let (text, next) ← readTagChars fuel false next handle.tail.reverse
        if text.isEmpty then pure ([], ['!'], next) else pure (['!'], text.reverse, next)
  if next.blankOrEnd || (inFlow && next.is ',') then
    .ok (.tag (.ofList handle) (.ofList suffix), next)
  else .error .badTag

/-- Ends all blocks, before a directive, a mark of document borders or the end. -/
def endBlocks (lexer : Lexer) : Except Problem Lexer := do
  .ok { (← (lexer.dedentTo (-1)).dropKey) with keyAllowed := false }

/-- Reads an opening bracket or brace. -/
def openFlow (lexer : Lexer) (token : Token) : Except Problem Lexer := do
  let lexer ← lexer.noteKey
  .ok { lexer.push token lexer.here.skip with
    key := none, outerKeys := lexer.key :: lexer.outerKeys, keyAllowed := true }

/-- Reads a closing bracket or brace. -/
def closeFlow (lexer : Lexer) (token : Token) : Except Problem Lexer := do
  let lexer ← lexer.dropKey
  let (key, outerKeys) :=
    match lexer.outerKeys with
    | [] => (none, [])
    | key :: outer => (key, outer)
  .ok { lexer.push token lexer.here.skip with key, outerKeys, keyAllowed := false }

/-- Reads a hyphen before an item. -/
def readEntry (lexer : Lexer) : Except Problem Lexer := do
  if !lexer.inFlow && !lexer.keyAllowed then .error .misplacedEntry
  else
    let lexer ← (lexer.indentTo lexer.here.column lexer.tokens.size .blockSequence).dropKey
    .ok { lexer.push .blockEntry lexer.here.skip with keyAllowed := true }

/-- Reads a question mark before a key. -/
def readKey (lexer : Lexer) : Except Problem Lexer := do
  if !lexer.inFlow && !lexer.keyAllowed then .error .misplacedKey
  else
    let lexer ← (lexer.indentTo lexer.here.column lexer.tokens.size .blockMapping).dropKey
    .ok { lexer.push .key lexer.here.skip with keyAllowed := !lexer.inFlow }

/-- Reads a colon before a value. If what stands before it may be a key, that key gets its
    token. -/
def readValue (lexer : Lexer) : Except Problem Lexer :=
  match lexer.key with
  | some key =>
    let lexer := { lexer with tokens := lexer.tokens.insertIdx! key.number .key }
    let lexer := lexer.indentTo key.column key.number .blockMapping
    .ok { lexer.push .value lexer.here.skip with key := none, keyAllowed := false }
  | none =>
    if !lexer.inFlow && !lexer.keyAllowed then .error .misplacedValue
    else
      let lexer := lexer.indentTo lexer.here.column lexer.tokens.size .blockMapping
      .ok { lexer.push .value lexer.here.skip with keyAllowed := !lexer.inFlow }

/-- May a plain scalar begin with the character? Hyphens, question marks and colons may if no
    blank follows. -/
def beginsPlain (inFlow : Bool) (c : Char) (next : Option Char) : Bool :=
  let blankNext := next.all fun d => isSpace d || isBreak d
  !(isSpace c || isBreak c || "-?:,[]\x7b\x7d#&*!|>'\"%@`".contains c) ||
    (c == '-' && !next.any isSpace) || (!inFlow && (c == '?' || c == ':') && !blankNext)

/-- Reads a scalar. -/
def readScalar (lexer : Lexer) (c : Char) : Except Problem Lexer := do
  let fuel := lexer.here.rest.length + 1
  if (c = '|' ∨ c = '>') ∧ !lexer.inFlow then
    let lexer ← lexer.dropKey
    let (text, here) ← Scalar.readBlock (c == '>') lexer.indent lexer.here.skip
    let style := if c = '>' then Style.folded else .literal
    .ok { lexer.push (.scalar (.ofList text.reverse) style) here with keyAllowed := true }
  else if c = '\'' ∨ c = '"' then
    let lexer ← lexer.noteKey
    let (text, here) ← Scalar.readQuoted fuel (c == '\'') lexer.here.skip []
    let style := if c = '\'' then Style.singleQuoted else .doubleQuoted
    .ok { lexer.push (.scalar (.ofList text.reverse) style) here with keyAllowed := false }
  else if beginsPlain lexer.inFlow c (lexer.here.peek 1) then
    let lexer ← lexer.noteKey
    let (text, here, broken) ←
      Scalar.readPlain fuel lexer.inFlow (lexer.indent + 1) lexer.here [] {}
    .ok { lexer.push (.scalar (.ofList text.reverse) .plain) here with keyAllowed := broken }
  else .error .unexpectedCharacter

/-- Reads an anchor, alias or tag. -/
def readProperty (lexer : Lexer) (read : Cursor → Except Problem (Token × Cursor)) :
    Except Problem Lexer := do
  let lexer ← lexer.noteKey
  let (token, here) ← read lexer.here
  .ok { lexer.push token here with keyAllowed := false }

/-- Reads the token that begins here with the given character. -/
def readToken (lexer : Lexer) (c : Char) : Except Problem Lexer := do
  let here := lexer.here
  let flow := lexer.inFlow
  if here.column = 0 ∧ c = '%' then
    let lexer ← lexer.endBlocks
    let (token, next) ← readDirective here
    .ok (lexer.push token next)
  else if here.isMark '-' then .ok ((← lexer.endBlocks).push .documentStart (here.skip 3))
  else if here.isMark '.' then .ok ((← lexer.endBlocks).push .documentEnd (here.skip 3))
  else if c = '[' then lexer.openFlow .flowSequence
  else if c = '\x7b' then lexer.openFlow .flowMapping
  else if c = ']' then lexer.closeFlow .flowSequenceEnd
  else if c = '\x7d' then lexer.closeFlow .flowMappingEnd
  else if c = ',' then
    .ok { (← lexer.dropKey).push .flowEntry here.skip with keyAllowed := true }
  else if c = '-' ∧ here.blankOrEnd 1 then lexer.readEntry
  else if c = '?' ∧ (flow ∨ here.blankOrEnd 1) then lexer.readKey
  else if c = ':' ∧ (flow ∨ here.blankOrEnd 1) then lexer.readValue
  else if c = '*' then
    lexer.readProperty fun here => (readName here).map fun (name, next) => (.aliasOf name, next)
  else if c = '&' then
    lexer.readProperty fun here => (readName here).map fun (name, next) => (.anchor name, next)
  else if c = '!' then lexer.readProperty (readTag flow)
  else lexer.readScalar c

/-- Reads tokens to the end of the text; `fuel` bounds their number. -/
def run (fuel : Nat) (lexer : Lexer) : Except Problem (Array Token) :=
  match fuel with
  | 0 => .ok lexer.tokens
  | fuel + 1 => do
    let lexer ← (skipBlank (fuel + 1) lexer).dropStale
    let lexer := lexer.dedentTo lexer.here.column
    match lexer.here.rest with
    | [] => return (← lexer.endBlocks).tokens
    | c :: _ => run fuel (← lexer.readToken c)

end Lexer

/-- The tokens of a text. -/
def Token.ofText (text : String) : Except Problem (List Token) :=
  let here : Cursor := ⟨text.toList, 0, 0, 0⟩
  if here.rest.all isAllowed then
    (Lexer.run (here.rest.length + 2) { here }).map Array.toList
  else .error .forbiddenCharacter

end LogSift.Yaml
