import LogSift.Error
import LogSift.Field.Hint
import LogSift.Field.Placeholder
import LogSift.Library
import LogSift.Token
import Std.Data.TreeSet

/-!
Expansion of expressions. Every token is replaced by a group around the body of its pattern,
and the tokens of the body in turn, until a regular expression is left. A group that captures
a field bears the name of the field in encoded form; where a field is captured again, its group
bears a numbered alias, and `captures` says which field every group stands for.
-/

namespace LogSift

open Std (TreeMap TreeSet)

namespace Expansion

/-- A part of an expanded expression. -/
inductive Piece where
  | text (cs : List Char)
  /-- The head of the group that a token becomes, with a group name if it captures a field. -/
  | opening (token : Token) (group : Option String)
  | closing
  deriving DecidableEq, Repr

/-- The characters of a piece. -/
def Piece.chars : Piece → List Char
  | text cs => cs
  | opening _ none => ['(', '?', ':']
  | opening _ (some group) => ['(', '?', 'P', '<'] ++ group.toList ++ ['>']
  | closing => [')']

end Expansion

/-- The result of expanding an expression. -/
structure Expansion where
  pieces : List Expansion.Piece
  /-- The field that every emitted group captures. -/
  captures : TreeMap String String
  /-- The type that was declared last for a field. -/
  fieldHints : TreeMap String Hint

namespace Expansion

/-- The regular expression. -/
def source (expansion : Expansion) : String :=
  .ofList (expansion.pieces.flatMap Piece.chars)

/-- The field of a group. Groups that stand in a body by hand have no entry; their names are
    decoded. -/
def fieldOf (expansion : Expansion) (group : String) : String :=
  match expansion.captures[group]? with
  | some field => field
  | none => FieldName.decode group

/-- The hint of an emitted group: the last one declared for its field. -/
def hintOf? (expansion : Expansion) (group : String) : Option Hint := do
  let field ← expansion.captures[group]?
  expansion.fieldHints[field]?

/-- The number of an alias. A search for one counts from 2 in 32 bits, where the smallest number comes
    behind the largest. With all of these numbers in use it would go round for ever; for it to end, the
    numbers go on here. -/
def counter (n : Nat) : Int := if n < Int32.size + 2 then (Int32.ofNat n).toInt else n

/-- The alias of a group name that a search comes to with a number. -/
def numbered (encoded : String) (n : Nat) : String :=
  encoded ++ "__" ++ Decimal.showInt (counter n)

/-- The first alias from a number on that is not in use. -/
def freshAlias (used : TreeSet String) (encoded : String) (fuel n : Nat) : String :=
  match fuel with
  | 0 => numbered encoded n
  | fuel + 1 =>
    if used.contains (numbered encoded n) then freshAlias used encoded fuel (n + 1)
    else numbered encoded n

/-- The group name for one more capture: the encoded field itself, or its first free alias. The
    names in use run out before the aliases do. -/
def freshGroup (used : TreeSet String) (encoded : String) : String :=
  if used.contains encoded then freshAlias used encoded used.size 2 else encoded

/-- Gives out the group name for one more capture, which is in use from then on. -/
def allocate (used : TreeSet String) (encoded : String) : String × TreeSet String :=
  (freshGroup used encoded, used.insert (freshGroup used encoded))

/-- A name that is given out comes into use as it is noted for a field. -/
theorem allocate_inStep {used : TreeSet String} {captures : TreeMap String String}
    (inStep : ∀ name, name ∈ used ↔ name ∈ captures) (encoded field name : String) :
    name ∈ (allocate used encoded).2 ↔ name ∈ captures.insert (allocate used encoded).1 field := by
  simp [allocate, inStep]

/-- What has been emitted so far, the last piece first. -/
structure Output where
  pieces : List Piece := []
  /-- The group names in use. -/
  used : TreeSet String := ∅
  captures : TreeMap String String := ∅
  fieldHints : TreeMap String Hint := ∅
  inStep : ∀ name, name ∈ used ↔ name ∈ captures := by simp

def Output.emit (out : Output) (piece : Piece) : Output := { out with pieces := piece :: out.pieces }

/-- Emits the head of a token's group. -/
def Output.openToken (out : Output) (token : Token) (namedOnly : Bool) : Except Error Output :=
  match token.fieldName? namedOnly with
  | none => .ok (out.emit (.opening token none))
  | some field =>
    if FieldName.isReserved field then .error (.reservedFieldName field)
    else
      let given := allocate out.used (FieldName.encode field)
      .ok {
        pieces := .opening token (some given.1) :: out.pieces
        used := given.2
        captures := out.captures.insert given.1 field
        fieldHints :=
          match token.type with
          | none => out.fieldHints
          | some type => out.fieldHints.insert field (.ofWord type)
        inStep := allocate_inStep out.inStep (FieldName.encode field) field }

/-- A text being expanded: the body of a pattern, or the expression, which has no name. What is
    still to be read of it is kept. -/
structure Frame where
  name : Option String
  rest : List Char
  deriving DecidableEq, Repr

/-- The body that a token stands for. A name that is being expanded already is refused first,
    then nesting beyond the limit, then a name without definition. `openNames` are the names being
    expanded, innermost first, and `depth` is their number. -/
def body (library : Library) (maxDepth : Nat) (openNames : List String) (depth : Nat)
    (token : Token) : Except Error String :=
  if openNames.contains token.pattern then
    .error (.cyclicPattern (Library.circle openNames token.pattern))
  else if maxDepth ≤ depth then .error (.depthExceeded maxDepth)
  else
    match library.lookup? token.pattern with
    | none => .error (.unknownPattern token.pattern)
    | some body => .ok body

/-- The work that frames leave to do, innermost frame first: what a frame has still to read
    counts more than any body below it could add. -/
def work (base maxDepth : Nat) : List Frame → Nat
  | [] => 0
  | frame :: outer =>
    (frame.rest.length + 1) * Nat.pow base (maxDepth - outer.length) + work base maxDepth outer

theorem lt_of_body {library : Library} {maxDepth depth : Nat} {openNames : List String}
    {token : Token} {text : String}
    (h : body library maxDepth openNames depth token = .ok text) : depth < maxDepth := by
  unfold body at h
  split at h
  · simp at h
  · split at h
    · simp at h
    · omega

theorem lookup?_of_body {library : Library} {maxDepth depth : Nat} {openNames : List String}
    {token : Token} {text : String} (h : body library maxDepth openNames depth token = .ok text) :
    library.lookup? token.pattern = some text := by
  unfold body at h
  split at h
  · simp at h
  · split at h
    · simp at h
    · split at h
      · simp at h
      · next found => simp at h; rw [found, h]

/-- Opening a token leaves less work: the token is read, and its body is short. -/
theorem work_open_lt {base maxDepth : Nat} {outer : List Frame} {name : Option String}
    {rest after text : List Char} {inner : Option String} (deep : outer.length < maxDepth)
    (shorter : after.length < rest.length) (short : text.length + 2 ≤ base) :
    work base maxDepth (⟨inner, text⟩ :: ⟨name, after⟩ :: outer) <
      work base maxDepth (⟨name, rest⟩ :: outer) := by
  obtain ⟨k, hk⟩ : ∃ k, maxDepth - outer.length = k + 1 := ⟨maxDepth - outer.length - 1, by omega⟩
  have hk' : maxDepth - (outer.length + 1) = k := by omega
  have step : Nat.pow base (k + 1) = Nat.pow base k * base := rfl
  simp only [work, List.length_cons, hk, hk', step]
  have body : (text.length + 1) * Nat.pow base k < Nat.pow base k * base := by
    rw [Nat.mul_comm]
    exact Nat.mul_lt_mul_of_pos_left (by omega) (Nat.pow_pos (by omega))
  have read : (after.length + 1) * (Nat.pow base k * base) + Nat.pow base k * base ≤
      (rest.length + 1) * (Nat.pow base k * base) := by
    rw [← Nat.succ_mul]
    exact Nat.mul_le_mul_right _ (by omega)
  omega

/-- Leaving a frame leaves less work. -/
theorem work_close_lt {base maxDepth : Nat} {frame : Frame} {outer : List Frame} (pos : 0 < base) :
    work base maxDepth outer < work base maxDepth (frame :: outer) := by
  simp only [work]
  have power : 0 < Nat.pow base (maxDepth - outer.length) := Nat.pow_pos pos
  have := Nat.mul_pos (Nat.succ_pos frame.rest.length) power
  simp only [Nat.succ_eq_add_one] at this
  omega

/-- Expands what the frames have still to read, innermost frame first. -/
def run (library : Library) (namedOnly : Bool) (maxDepth : Nat) (frames : List Frame)
    (out : Output) : Except Error Output :=
  match frames with
  | [] => .ok out
  | ⟨name, rest⟩ :: outer =>
    match _split : Token.first? rest with
    | none =>
      let out := out.emit (.text rest)
      run library namedOnly maxDepth outer (if name.isSome then out.emit .closing else out)
    | some ⟨before, token, after⟩ =>
      let openNames := (⟨name, rest⟩ :: outer).filterMap (·.name)
      match _found : body library maxDepth openNames outer.length token with
      | .error e => .error e
      | .ok text =>
        match (out.emit (.text before)).openToken token namedOnly with
        | .error e => .error e
        | .ok out =>
          run library namedOnly maxDepth
            (⟨some token.pattern, text.toList⟩ :: ⟨name, after⟩ :: outer) out
termination_by work (library.longestBody + 2) maxDepth frames
decreasing_by
  · exact work_close_lt (by omega)
  · exact work_open_lt (lt_of_body _found) (Token.length_of_first? _split)
      (Nat.add_le_add_right (Library.length_le_longestBody (lookup?_of_body _found)) 2)

/-- The result of a finished run. -/
def ofOutput (out : Output) : Expansion := ⟨out.pieces.reverse, out.captures, out.fieldHints⟩

end Expansion

/-- Expands an expression. With `namedOnly`, tokens that name no field capture nothing; bodies
    may be nested `maxDepth` deep. The placeholder of the library is checked first. -/
def Library.expand [Regex.Engine] (library : Library) (expression : String) (namedOnly : Bool)
    (maxDepth : Nat) : Except Error Expansion := do
  FieldName.checkPlaceholder FieldName.placeholder
  let out ← Expansion.run library namedOnly maxDepth [⟨none, expression.toList⟩] {}
  return Expansion.ofOutput out

/-- The check of the placeholder does not stop an expansion. -/
theorem Library.expand_eq_run [Regex.Engine] (library : Library) (expression : String)
    (namedOnly : Bool) (maxDepth : Nat) :
    library.expand expression namedOnly maxDepth =
      (Expansion.run library namedOnly maxDepth [⟨none, expression.toList⟩] {}).map
        Expansion.ofOutput := by
  rw [expand, FieldName.checkPlaceholder_placeholder]
  rfl

end LogSift
