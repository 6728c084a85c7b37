import LogSift.Regex.Escape

/-!
Bracketed classes: characters, ranges, named ASCII classes, escapes and classes inside classes,
with the operations of intersection, difference and symmetric difference, which group to the
left. Reading a class gives its set at once, and how deeply it is nested.
-/

namespace LogSift.Regex.Class

open Unicode (CharSet)

/-- The named ASCII classes. -/
def named? (name : String) : Option CharSet :=
  let ranges (rs : List (Nat × Nat)) : Option CharSet := some (.ofRanges rs)
  match name with
  | "alnum" => ranges [(48, 57), (65, 90), (97, 122)]
  | "alpha" => ranges [(65, 90), (97, 122)]
  | "ascii" => ranges [(0, 127)]
  | "blank" => ranges [(9, 9), (32, 32)]
  | "cntrl" => ranges [(0, 31), (127, 127)]
  | "digit" => ranges [(48, 57)]
  | "graph" => ranges [(33, 126)]
  | "lower" => ranges [(97, 122)]
  | "print" => ranges [(32, 126)]
  | "punct" => ranges [(33, 47), (58, 64), (91, 96), (123, 126)]
  | "space" => ranges [(9, 13), (32, 32)]
  | "upper" => ranges [(65, 90)]
  | "word" => ranges [(48, 57), (65, 90), (95, 95), (97, 122)]
  | "xdigit" => ranges [(48, 57), (65, 70), (97, 102)]
  | _ => none

/-- Reads a named ASCII class from its inner bracket on: its set and whether it is negated. -/
def readNamed? : List Char → Option (CharSet × Bool × List Char)
  | '[' :: ':' :: rest =>
    let (negated, rest) : Bool × List Char :=
      match rest with
      | '^' :: rest => (true, rest)
      | rest => (false, rest)
    match rest.dropWhile (· != ':') with
    | ':' :: ']' :: after =>
      (named? (.ofList (rest.takeWhile (· != ':')))).map fun s => (s, negated, after)
    | _ => none
  | _ => none

/-- The operations on sets inside a class. -/
inductive Op where
  | inter
  | diff
  | symmDiff
  deriving DecidableEq, Repr

def Op.apply : Op → CharSet → CharSet → CharSet
  | inter => CharSet.inter
  | diff => CharSet.diff
  | symmDiff => CharSet.symmDiff

/-- The operation whose sign a text begins with. -/
def op? : List Char → Option (Op × List Char)
  | '&' :: '&' :: rest => some (.inter, rest)
  | '-' :: '-' :: rest => some (.diff, rest)
  | '~' :: '~' :: rest => some (.symmDiff, rest)
  | _ => none

/-- Sets read so far whose union is an operand: how many items they come from, and how deeply
    the items are nested. -/
structure Operand where
  sets : List CharSet := []
  items : Nat := 0
  height : Nat := 0

def Operand.add (o : Operand) (s : CharSet) (height : Nat) : Operand :=
  ⟨s :: o.sets, o.items + 1, max o.height height⟩

/-- The set of an operand. Two items or more are one level of nesting. -/
def Operand.close (o : Operand) : CharSet × Nat :=
  (.unionAll o.sets, if o.items ≤ 1 then o.height else o.height + 1)

/-- Works out the operation that stands before an operand, if there is one; case is folded in
    both operands before it. -/
def combine (flags : Flags) (before : Option (Op × CharSet × Nat)) (right : CharSet × Nat) :
    CharSet × Nat :=
  match before with
  | none => right
  | some (op, left, height) =>
    (op.apply (flags.fold left) (flags.fold right.1), max height right.2 + 1)

/-- One character or escape of a class. -/
def readPrimitive (flags : Flags) : List Char → Except Error (Primitive × List Char)
  | [] => .error .unclosedClass
  | '\\' :: rest => Escape.read flags rest
  | c :: rest => .ok (.literal c false, rest)

/-- The character of a primitive at one end of a range. -/
def endOf : Primitive → Except Error (Char × Bool)
  | .literal c asByte => .ok (c, asByte)
  | _ => .error .invalidRange

/-- A literal as it stands in classes; without Unicode it is an ASCII character. -/
def literal (flags : Flags) (c : Char) (asByte : Bool) : Except Error Char := do
  let c ← flags.literal c asByte
  if !flags.unicode && 128 ≤ c.toNat then .error .brokenCharacter else .ok c

/-- The set of a primitive that stands alone. -/
def setOf (flags : Flags) : Primitive → Except Error CharSet
  | .literal c asByte => (literal flags c asByte).map CharSet.singleton
  | .digits negated => flags.negate negated flags.digits
  | .spaces negated => flags.negate negated flags.spaces
  | .words negated => flags.negate negated flags.words
  | .property query negated => flags.property query negated
  | .dot | .look _ => .error .invalidClass

/-- The next character that the verbose form does not leave out, from blank or the text of a
    comment on. -/
def peekVerbose (inComment : Bool) : List Char → Option Char
  | [] => none
  | c :: rest =>
    if Unicode.isBlank c then peekVerbose inComment rest
    else if !inComment && c == '#' then peekVerbose true rest
    else some c

/-- The character after a hyphen, which decides whether the hyphen makes a range. -/
def peek (flags : Flags) (rest : List Char) : Option Char :=
  if flags.verbose then peekVerbose false rest else rest.head?

/-- Reads a character, an escape or a range. -/
def readItem (flags : Flags) (cs : List Char) : Except Error (CharSet × List Char) := do
  let (first, rest) ← readPrimitive flags cs
  match flags.skip rest with
  | [] => .error .unclosedClass
  | '-' :: more =>
    if peek flags more = some ']' ∨ peek flags more = some '-' then
      (setOf flags first).map fun s => (s, '-' :: more)
    else
      let (last, rest) ← readPrimitive flags (flags.skip more)
      let (low, lowByte) ← endOf first
      let (high, highByte) ← endOf last
      if high < low then .error .invalidRange
      else
        let low ← literal flags low lowByte
        let high ← literal flags high highByte
        .ok (.ofRange low high, rest)
  | rest => (setOf flags first).map fun s => (s, rest)

/-- Reads the hyphens that a class may begin with, each for itself. -/
def readHyphens (flags : Flags) (fuel : Nat) (operand : Operand) (cs : List Char) :
    Operand × List Char :=
  match fuel, cs with
  | fuel + 1, '-' :: rest =>
    readHyphens flags fuel (operand.add (.singleton '-') 0) (flags.skip rest)
  | _, cs => (operand, cs)

/-- Reads the beginning of a class after its bracket: a negation, then hyphens, or a closing
    bracket for itself. -/
def readOpening (flags : Flags) (cs : List Char) : Bool × Operand × List Char :=
  let cs := flags.skip cs
  let (negated, cs) : Bool × List Char :=
    match cs with
    | '^' :: rest => (true, flags.skip rest)
    | cs => (false, cs)
  let (operand, cs) := readHyphens flags (cs.length + 1) {} cs
  match operand.items, cs with
  | 0, ']' :: rest => (negated, operand.add (.singleton ']') 0, flags.skip rest)
  | _, cs => (negated, operand, cs)

mutual

/-- Reads a class after its opening bracket: its set, its nesting, and what follows it. -/
def read (flags : Flags) (fuel : Nat) (cs : List Char) :
    Except Error (CharSet × Nat × List Char) :=
  match fuel with
  | 0 => .error .unclosedClass
  | fuel + 1 => do
    let (negated, operand, rest) := readOpening flags cs
    let (s, height, rest) ← readItems flags fuel none operand rest
    let s ← flags.negate negated (flags.fold s)
    .ok (s, height + 1, rest)

/-- Reads the items of a class up to its closing bracket. `before` is the left operand of the
    operation being read, and `operand` what has been read of the right one. -/
def readItems (flags : Flags) (fuel : Nat) (before : Option (Op × CharSet × Nat))
    (operand : Operand) (cs : List Char) : Except Error (CharSet × Nat × List Char) :=
  match fuel with
  | 0 => .error .unclosedClass
  | fuel + 1 => do
    match flags.skip cs with
    | [] => .error .unclosedClass
    | ']' :: rest =>
      let (s, height) := combine flags before operand.close
      .ok (s, height, rest)
    | '[' :: rest =>
      match readNamed? ('[' :: rest) with
      | some (s, negated, rest) =>
        let s ← flags.negate negated (flags.fold s)
        readItems flags fuel before (operand.add s 0) rest
      | none =>
        let (s, height, rest) ← read flags fuel rest
        readItems flags fuel before (operand.add s height) rest
    | cs =>
      match op? cs with
      | some (op, rest) =>
        let (s, height) := combine flags before operand.close
        readItems flags fuel (some (op, s, height)) {} rest
      | none =>
        let (s, rest) ← readItem flags cs
        readItems flags fuel before (operand.add s 0) rest

end

end LogSift.Regex.Class
