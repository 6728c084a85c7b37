import LogSift.Regex.Class

/-!
Reading of regular expressions. The text is read item by item; what is open at a place, the
items of the current branch, the branches before it and the groups around them, is kept in a
`Reader`.
-/

namespace LogSift.Regex

open Unicode (CharSet isBlank)

/-- A part of a branch. Flags set in the middle of a branch count as a part, but match nothing
    and cannot be repeated. -/
structure Item where
  expr : Expr
  /-- How deeply groups, repetitions, branches and classes are nested in it. -/
  height : Nat := 0
  isFlags : Bool := false
  deriving DecidableEq, Repr

/-- The branches read so far, and the items of the current branch; the last one first. -/
structure Level where
  branches : List Item := []
  items : List Item := []
  deriving DecidableEq, Repr

namespace Level

def push (level : Level) (item : Item) : Level := { level with items := item :: level.items }

/-- The greatest height of items. -/
def heightOf (items : List Item) : Nat := (items.map (·.height)).foldr max 0

/-- The current branch as one item. Two items or more are one level of nesting. -/
def branch (level : Level) : Item :=
  let items := level.items.reverse
  let exprs := (items.filter fun item => !item.isFlags).map (·.expr)
  ⟨.seqAll exprs, if items.length ≤ 1 then heightOf items else heightOf items + 1, false⟩

/-- Ends the current branch and begins another. -/
def nextBranch (level : Level) : Level := ⟨level.branch :: level.branches, []⟩

/-- All branches as one item. -/
def close (level : Level) : Item :=
  if level.branches.isEmpty then level.branch
  else
    let branches := (level.branch :: level.branches).reverse
    ⟨.altAll (branches.map (·.expr)), heightOf branches + 1, false⟩

end Level

/-- A group that is open: its number and name if it captures, and what goes on after it. -/
structure OpenGroup where
  capture : Option (Nat × Option String)
  flags : Flags
  level : Level
  deriving DecidableEq, Repr

/-- What a regular expression says up to some place, and the rest of its text. -/
structure Reader where
  rest : List Char
  flags : Flags := {}
  level : Level := {}
  /-- The open groups, innermost first. -/
  outer : List OpenGroup := []
  /-- The number of capturing groups so far, and their names. -/
  groups : Nat := 0
  names : List String := []
  deriving DecidableEq, Repr

namespace Reader

/-- May the character stand in the name of a group, at the beginning or later? -/
def isNameStart (c : Char) : Bool := c == '_' || Unicode.isAlphabetic c

def isNameChar (c : Char) : Bool :=
  c == '_' || c == '.' || c == '[' || c == ']' || Unicode.isAlphanumeric c

/-- Is the text the name of a group? -/
def isName : List Char → Bool
  | [] => false
  | c :: rest => isNameStart c && rest.all isNameChar

def push (r : Reader) (item : Item) (rest : List Char) : Reader :=
  { r with level := r.level.push item, rest }

/-- Opens a group. -/
def enter (r : Reader) (capture : Option (Nat × Option String)) (flags : Flags)
    (rest : List Char) : Reader :=
  { r with rest, flags, level := {}, outer := ⟨capture, r.flags, r.level⟩ :: r.outer }

/-- Opens the group of a name, which reaches up to the next closing angle bracket. -/
def enterNamed (r : Reader) (cs : List Char) : Except Error Reader :=
  let name := cs.takeWhile (· != '>')
  match cs.dropWhile (· != '>') with
  | [] => .error .invalidGroupName
  | _ :: rest =>
    if name.isEmpty then .error .emptyGroupName
    else if !isName name then .error .invalidGroupName
    else if r.names.contains (.ofList name) then .error .duplicateGroupName
    else
      let index := r.groups + 1
      let opened := r.enter (some (index, some (.ofList name))) r.flags rest
      .ok { opened with groups := index, names := .ofList name :: r.names }

/-- Reads what follows an opening parenthesis. -/
def openGroup (r : Reader) (cs : List Char) : Except Error Reader :=
  match r.flags.skip cs with
  | '?' :: '=' :: _ | '?' :: '!' :: _ | '?' :: '<' :: '=' :: _ | '?' :: '<' :: '!' :: _ =>
    .error .lookAround
  | '?' :: 'P' :: '<' :: rest => r.enterNamed rest
  | '?' :: '<' :: rest => r.enterNamed rest
  | '?' :: rest => do
    let (flags, any, rest) ← r.flags.read [] rest
    match rest with
    | ':' :: rest => .ok (r.enter none flags rest)
    | _ :: rest =>
      if any then .ok { r.push ⟨.empty, 0, true⟩ rest with flags }
      else .error .nothingToRepeat
    | [] => .error .unclosedGroup
  | cs =>
    let index := r.groups + 1
    .ok { r.enter (some (index, none)) r.flags cs with groups := index }

/-- Closes the innermost group, which becomes an item around it. -/
def closeGroup (r : Reader) (rest : List Char) : Except Error Reader :=
  match r.outer with
  | [] => .error .unopenedGroup
  | ⟨capture, flags, level⟩ :: outer =>
    let inner := r.level.close
    let expr :=
      match capture with
      | none => inner.expr
      | some (index, name) => .capture index name inner.expr
    .ok { r with rest, flags, outer, level := level.push ⟨expr, inner.height + 1, false⟩ }

/-- Repeats the last item. -/
def repeatLast (r : Reader) (min : Nat) (max : Option Nat) (greedy : Bool) (rest : List Char) :
    Except Error Reader :=
  match r.level.items with
  | [] => .error .nothingToRepeat
  | item :: items =>
    if item.isFlags then .error .nothingToRepeat
    else
      let greedy := if r.flags.swapGreed then !greedy else greedy
      let item : Item := ⟨.repeatOf min max greedy item.expr, item.height + 1, false⟩
      .ok { r with rest, level := { r.level with items := item :: items } }

/-- Reads what follows a sign of repetition: a question mark makes it modest. -/
def readRepeat (r : Reader) (min : Nat) (max : Option Nat) : List Char → Except Error Reader
  | '?' :: rest => r.repeatLast min max false rest
  | rest => r.repeatLast min max true rest

/-- Reads digits, leaving out blank between them in the verbose form. -/
def readDigits (flags : Flags) (fuel : Nat) (cs : List Char) : List Char × List Char :=
  match fuel, cs with
  | fuel + 1, c :: rest =>
    if c.isDigit then
      let (more, rest) := readDigits flags fuel (flags.skip rest)
      (c :: more, rest)
    else ([], cs)
  | _, cs => ([], cs)

/-- Leaves out blank, and comments after blank in the verbose form. -/
def skipBlank (flags : Flags) (cs : List Char) : List Char :=
  match cs with
  | c :: rest => if isBlank c then flags.skip (rest.dropWhile isBlank) else c :: rest
  | [] => []

/-- Reads a count with blank around it; none where there are no digits, or too many. -/
def readCount (flags : Flags) (cs : List Char) : Option Nat × List Char :=
  let cs := cs.dropWhile isBlank
  let (digits, rest) := readDigits flags (cs.length + 1) cs
  let n := Digits.decimal 0 digits
  (if digits.isEmpty || Nat.pow 2 32 ≤ n then none else some n, skipBlank flags rest)

/-- Reads the counts of a repetition after the opening brace: the least count, the greatest one
    unless it is open, and what follows the closing brace. -/
def readCounts (flags : Flags) (cs : List Char) :
    Except Error (Nat × Option Nat × List Char) :=
  match readCount flags (flags.skip cs) with
  | (some min, '\x7d' :: rest) => .ok (min, some min, rest)
  | (some min, ',' :: rest) =>
    match flags.skip rest with
    | '\x7d' :: rest => .ok (min, none, rest)
    | rest =>
      match readCount flags rest with
      | (some max, '\x7d' :: rest) =>
        if max < min then .error .invalidRepetition else .ok (min, some max, rest)
      | _ => .error .invalidRepetition
  | _ => .error .invalidRepetition

/-- Reads a repetition after the opening brace. -/
def readCounted (r : Reader) (cs : List Char) : Except Error Reader :=
  match r.level.items with
  | [] => .error .nothingToRepeat
  | _ :: _ => do
    let (min, max, rest) ← readCounts r.flags cs
    r.readRepeat min max (r.flags.skip rest)

/-- The item of a single character. -/
def literalItem (flags : Flags) (c : Char) (asByte : Bool) : Except Error Item := do
  let c ← flags.literal c asByte
  if !flags.ignoreCase then .ok ⟨.char c, 0, false⟩
  else if flags.unicode then .ok ⟨.set (Unicode.Folding.foldChar c), 0, false⟩
  else .ok ⟨.set (flags.fold (.singleton c)), 0, false⟩

/-- The item of a primitive. -/
def primitiveItem (flags : Flags) : Primitive → Except Error Item
  | .literal c asByte => literalItem flags c asByte
  | .dot => flags.dot.map fun s => ⟨.set s, 0, false⟩
  | .look look => .ok ⟨.look look, 0, false⟩
  | .digits negated => (flags.negate negated flags.digits).map fun s => ⟨.set s, 0, false⟩
  | .spaces negated => (flags.negate negated flags.spaces).map fun s => ⟨.set s, 0, false⟩
  | .words negated => (flags.negate negated flags.words).map fun s => ⟨.set s, 0, false⟩
  | .property query negated => (flags.property query negated).map fun s => ⟨.set s, 0, false⟩

/-- Reads one more item, or the sign that begins or ends a group or a branch. -/
def step (r : Reader) (c : Char) (rest : List Char) : Except Error Reader :=
  match c with
  | '(' => r.openGroup rest
  | ')' => r.closeGroup rest
  | '|' => .ok { r with rest, level := r.level.nextBranch }
  | '[' => do
    let (s, height, rest) ← Class.read r.flags (2 * rest.length + 2) rest
    .ok (r.push ⟨.set s, height, false⟩ rest)
  | '?' => r.readRepeat 0 (some 1) rest
  | '*' => r.readRepeat 0 none rest
  | '+' => r.readRepeat 1 none rest
  | '\x7b' => r.readCounted rest
  | '\\' => do
    let (primitive, rest) ← Escape.read r.flags rest
    (primitiveItem r.flags primitive).map fun item => r.push item rest
  | '.' => (primitiveItem r.flags .dot).map fun item => r.push item rest
  | '^' =>
    let look := if r.flags.multiLine then Look.lineStart r.flags.returns else .textStart
    .ok (r.push ⟨.look look, 0, false⟩ rest)
  | '$' =>
    let look := if r.flags.multiLine then Look.lineEnd r.flags.returns else .textEnd
    .ok (r.push ⟨.look look, 0, false⟩ rest)
  | c => (literalItem r.flags c false).map fun item => r.push item rest

/-- Reads to the end of the text; `fuel` bounds the number of items. -/
def run (fuel : Nat) (r : Reader) : Except Error Reader :=
  match fuel with
  | 0 => .ok r
  | fuel + 1 =>
    match r.flags.skip r.rest with
    | [] => .ok { r with rest := [] }
    | c :: rest => do run fuel (← r.step c rest)

/-- Nothing may be nested more deeply than this. -/
def maxHeight : Nat := 250

/-- The expression that has been read, where all groups are closed. -/
def finish (r : Reader) : Except Error Expr :=
  if r.outer.isEmpty then
    if maxHeight < r.level.close.height then .error .tooDeep else .ok r.level.close.expr
  else .error .unclosedGroup

/-- Reads a whole text. -/
def read (cs : List Char) : Except Error Expr := do
  (← run (cs.length + 1) { rest := cs }).finish

end Reader

end LogSift.Regex
