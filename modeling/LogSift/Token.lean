import LogSift.Unicode.Letter

/-!
Tokens: the references that expressions make to patterns, written as a percent sign and, in
braces, the name of the pattern, perhaps the field it fills, and perhaps the type of the field,
with colons between them. Reading is deterministic: no part can hold the character after it.
-/

namespace LogSift

/-- A reference to a pattern. -/
structure Token where
  pattern : String
  field : Option String := none
  type : Option String := none
  deriving DecidableEq, Repr, Inhabited

namespace Token

open Unicode (isWord)

/-- May the character stand in the name of a field? -/
def isFieldChar (c : Char) : Bool := isWord c || c == '.' || c == '+'

/-- The longest nonempty run of characters of a kind that a text begins with, and what follows. -/
def run? (p : Char → Bool) (cs : List Char) : Option (List Char × List Char) :=
  if (cs.takeWhile p).isEmpty then none else some (cs.takeWhile p, cs.dropWhile p)

/-- Reads what may follow the name of a field: a type, and the closing brace. -/
def readType? (pattern field : String) : List Char → Option (Token × List Char)
  | '\x7d' :: rest => some (⟨pattern, some field, none⟩, rest)
  | ':' :: rest =>
    match run? isWord rest with
    | some (type, '\x7d' :: rest) => some (⟨pattern, some field, some (.ofList type)⟩, rest)
    | _ => none
  | _ => none

/-- Reads what may follow the name of a pattern: a field, a type, and the closing brace. -/
def readField? (pattern : String) : List Char → Option (Token × List Char)
  | '\x7d' :: rest => some (⟨pattern, none, none⟩, rest)
  | ':' :: rest =>
    match run? isFieldChar rest with
    | some (field, rest) => readType? pattern (.ofList field) rest
    | none => none
  | _ => none

/-- The token that a text begins with, and what follows it. -/
def read? : List Char → Option (Token × List Char)
  | '%' :: '\x7b' :: rest =>
    match run? isWord rest with
    | some (pattern, rest) => readField? (.ofList pattern) rest
    | none => none
  | _ => none

/-- The token that is the whole of a text. -/
def ofChars? (cs : List Char) : Option Token :=
  match read? cs with
  | some (token, []) => some token
  | _ => none

def ofString? (text : String) : Option Token := ofChars? text.toList

/-- A token in a text, with what stands before it and after it. -/
structure Split where
  before : List Char
  token : Token
  after : List Char
  deriving DecidableEq, Repr

/-- The first token of a text. -/
def first? : List Char → Option Split
  | [] => none
  | c :: rest =>
    match read? (c :: rest) with
    | some (token, after) => some ⟨[], token, after⟩
    | none => (first? rest).map fun split => { split with before := c :: split.before }

theorem length_dropWhile_le (p : Char → Bool) (cs : List Char) :
    (cs.dropWhile p).length ≤ cs.length :=
  (List.dropWhile_suffix p).length_le

theorem length_of_run? {p : Char → Bool} {cs found rest : List Char}
    (h : run? p cs = some (found, rest)) : rest.length ≤ cs.length := by
  unfold run? at h
  split at h
  · simp at h
  · simp only [Option.some.injEq, Prod.mk.injEq] at h
    rw [← h.2]; exact length_dropWhile_le p cs

theorem length_of_readType? {pattern field : String} {cs rest : List Char} {token : Token}
    (h : readType? pattern field cs = some (token, rest)) : rest.length < cs.length := by
  unfold readType? at h
  split at h
  · simp only [Option.some.injEq, Prod.mk.injEq] at h
    rw [← h.2]; simp
  · split at h
    · next r type rest' run =>
      simp only [Option.some.injEq, Prod.mk.injEq] at h
      have := length_of_run? run
      rw [← h.2]; simp at this ⊢; omega
    · simp at h
  · simp at h

theorem length_of_readField? {pattern : String} {cs rest : List Char} {token : Token}
    (h : readField? pattern cs = some (token, rest)) : rest.length < cs.length := by
  unfold readField? at h
  split at h
  · simp only [Option.some.injEq, Prod.mk.injEq] at h
    rw [← h.2]; simp
  · split at h
    · next field rest' run =>
      have := length_of_run? run
      have := length_of_readType? h
      simp; omega
    · simp at h
  · simp at h

/-- A token takes up part of the text. -/
theorem length_of_read? {cs rest : List Char} {token : Token}
    (h : read? cs = some (token, rest)) : rest.length < cs.length := by
  unfold read? at h
  split at h
  · split at h
    · next pattern rest' run =>
      have := length_of_run? run
      have := length_of_readField? h
      simp; omega
    · simp at h
  · simp at h

theorem length_of_first? {cs : List Char} {split : Split} (h : first? cs = some split) :
    split.after.length < cs.length := by
  induction cs generalizing split with
  | nil => simp [first?] at h
  | cons c rest ih =>
    unfold first? at h
    split at h
    · next token after read =>
      simp only [Option.some.injEq] at h
      rw [← h]; exact length_of_read? read
    · simp only [Option.map_eq_some_iff] at h
      obtain ⟨inner, found, rfl⟩ := h
      have := ih found
      simp; omega

/-- The tokens of a text one after another, each with what stands between it and the token
    before it, and the text after the last one. -/
def splits (cs : List Char) : List Split :=
  match _found : first? cs with
  | none => []
  | some split => split :: splits split.after
termination_by cs.length
decreasing_by exact length_of_first? _found

/-- The tokens of a text in order. -/
def all (text : String) : List Token := (splits text.toList).map (·.token)

/-- A token with the offsets, in bytes of UTF-8, where it begins and ends. -/
structure Occurrence where
  start : Nat
  stop : Nat
  token : Token
  deriving DecidableEq, Repr

/-- The number of bytes that characters take up in UTF-8. -/
def byteLength (cs : List Char) : Nat := (cs.map Char.utf8Size).foldr (· + ·) 0

/-- The text of a token. -/
def chars (token : Token) : List Char :=
  let part : Option String → List Char
    | none => []
    | some text => ':' :: text.toList
  '%' :: '\x7b' :: token.pattern.toList ++ part token.field ++ part token.type ++ ['\x7d']

/-- The places of tokens in a text, of which `start` bytes come before. -/
def locate (start : Nat) : List Split → List Occurrence
  | [] => []
  | split :: rest =>
    let first := start + byteLength split.before
    let stop := first + byteLength split.token.chars
    ⟨first, stop, split.token⟩ :: locate stop rest

/-- The tokens of a text with their places. -/
def occurrences (text : String) : List Occurrence := locate 0 (splits text.toList)

/-- The names that a text refers to, each once, in order of appearance. -/
def references (text : String) : List String := ((all text).map (·.pattern)).eraseDups

/-- The field that a token fills: the one it names, or else one named like its pattern unless
    only named fields are wanted. -/
def fieldName? (token : Token) (namedOnly : Bool) : Option String :=
  match token.field with
  | some field => some field
  | none => if namedOnly then none else some token.pattern

theorem fieldName?_true (token : Token) : token.fieldName? true = token.field := by
  unfold fieldName?
  cases token.field <;> rfl

end Token

end LogSift
