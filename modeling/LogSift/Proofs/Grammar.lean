import LogSift.Token
import Mathlib.Data.List.Basic
import Mathlib.Data.List.TakeWhile

/-!
Tokens as texts. What is read as a token is exactly what a well-formed token is written as
(`read?_eq_some_iff`). So a token neither appears nor vanishes when text is put behind it, and no
token reaches over a character that tokens do not hold (`first?_append_separator`).
-/

namespace LogSift.Token

open Unicode (isWord)

/-- A nonempty text of characters of a kind. -/
def IsRun (p : Char → Bool) (text : String) : Prop := text ≠ "" ∧ ∀ c ∈ text.toList, p c = true

/-- A token whose parts can be written and read back: a type is only told of a named field. -/
structure WellFormed (token : Token) : Prop where
  pattern : IsRun isWord token.pattern
  field : ∀ field ∈ token.field, IsRun isFieldChar field
  type : ∀ type ∈ token.type, IsRun isWord type
  typed : token.type.isSome → token.field.isSome

/-- A character that stands in no token. -/
def Separates (c : Char) : Prop := isFieldChar c = false ∧ c ∉ ['%', '\x7b', ':', '\x7d']

instance (c : Char) : Decidable (Separates c) := inferInstanceAs (Decidable (_ ∧ _))

variable {p : Char → Bool} {cs rest word left right : List Char} {pattern field : String}
  {token : Token} {c : Char}

/-! ### Runs -/

theorem isRun_ofList (some : word ≠ []) (all : ∀ c ∈ word, p c = true) :
    IsRun p (.ofList word) := by
  refine ⟨fun empty => some ?_, by simpa using all⟩
  simpa using congrArg String.toList empty

theorem run?_eq_some (found : run? p cs = some (word, rest)) :
    IsRun p (.ofList word) ∧ cs = word ++ rest := by
  unfold run? at found
  split at found
  · cases found
  · next nonempty =>
    simp only [Option.some.injEq, Prod.mk.injEq] at found
    obtain ⟨rfl, rfl⟩ := found
    exact ⟨isRun_ofList (by simpa using nonempty) fun c => List.mem_takeWhile_imp,
      List.takeWhile_append_dropWhile.symm⟩

/-- A run is read to its end, before a character of another kind. -/
theorem run?_append {text : String} (run : IsRun p text) (stop : p c = false) :
    run? p (text.toList ++ c :: rest) = some (text.toList, c :: rest) := by
  obtain ⟨some, all⟩ := run
  have taken : (text.toList ++ c :: rest).takeWhile p = text.toList := by
    rw [List.takeWhile_append_of_pos all, List.takeWhile_cons_of_neg (by simp [stop]),
      List.append_nil]
  have dropped : (text.toList ++ c :: rest).dropWhile p = c :: rest := by
    rw [List.dropWhile_append_of_pos all, List.dropWhile_cons_of_neg (by simp [stop])]
  rw [run?, taken, dropped, if_neg (by simpa using some)]

theorem isWord_brace : isWord '\x7d' = false := by decide

theorem isWord_colon : isWord ':' = false := by decide

theorem isFieldChar_brace : isFieldChar '\x7d' = false := by decide

theorem isFieldChar_colon : isFieldChar ':' = false := by decide

/-! ### What is read as a token -/

/-- Behind the name of a field comes the brace, or a type and the brace. -/
theorem readType?_eq_some_iff : readType? pattern field cs = some (token, rest) ↔
    (token = ⟨pattern, some field, none⟩ ∧ cs = '\x7d' :: rest) ∨
    ∃ type, IsRun isWord type ∧ token = ⟨pattern, some field, some type⟩ ∧
      cs = ':' :: (type.toList ++ '\x7d' :: rest) := by
  constructor
  · intro read
    unfold readType? at read
    split at read
    · cases read
      exact .inl ⟨rfl, rfl⟩
    · split at read
      · next found =>
        cases read
        obtain ⟨run, rfl⟩ := run?_eq_some found
        exact .inr ⟨_, run, rfl, by simp⟩
      · cases read
    · cases read
  · rintro (⟨rfl, rfl⟩ | ⟨type, run, rfl, rfl⟩)
    · rfl
    · simp [readType?, run?_append run isWord_brace]

/-- Behind the name of a pattern comes the brace, or a field and what may follow it. -/
theorem readField?_eq_some_iff : readField? pattern cs = some (token, rest) ↔
    (token = ⟨pattern, none, none⟩ ∧ cs = '\x7d' :: rest) ∨
    ∃ field after, IsRun isFieldChar field ∧ readType? pattern field after = some (token, rest) ∧
      cs = ':' :: (field.toList ++ after) := by
  constructor
  · intro read
    unfold readField? at read
    split at read
    · cases read
      exact .inl ⟨rfl, rfl⟩
    · split at read
      · next found =>
        obtain ⟨run, rfl⟩ := run?_eq_some found
        exact .inr ⟨_, _, run, read, by simp⟩
      · cases read
    · cases read
  · rintro (⟨rfl, rfl⟩ | ⟨field, after, run, read, rfl⟩)
    · rfl
    · have found : run? isFieldChar (field.toList ++ after) = some (field.toList, after) := by
        rcases readType?_eq_some_iff.1 read with ⟨_, rfl⟩ | ⟨_, _, _, rfl⟩
        · exact run?_append run isFieldChar_brace
        · exact run?_append run isFieldChar_colon
      simp [readField?, found, read]

/-- A token begins with a percent sign, a brace and the name of its pattern. -/
theorem read?_iff_readField? : read? cs = some (token, rest) ↔
    ∃ pattern after, IsRun isWord pattern ∧ readField? pattern after = some (token, rest) ∧
      cs = '%' :: '\x7b' :: (pattern.toList ++ after) := by
  constructor
  · intro read
    unfold read? at read
    split at read
    · split at read
      · next found =>
        obtain ⟨run, rfl⟩ := run?_eq_some found
        exact ⟨_, _, run, read, by simp⟩
      · cases read
    · cases read
  · rintro ⟨pattern, after, run, read, rfl⟩
    have found : run? isWord (pattern.toList ++ after) = some (pattern.toList, after) := by
      rcases readField?_eq_some_iff.1 read with ⟨_, rfl⟩ | ⟨_, _, _, _, rfl⟩
      · exact run?_append run isWord_brace
      · exact run?_append run isWord_colon
    simp [read?, found, read]

/-- A text begins with a token if and only if it begins with what the token is written as. -/
theorem read?_eq_some_iff :
    read? cs = some (token, rest) ↔ token.WellFormed ∧ cs = token.chars ++ rest := by
  constructor
  · intro read
    obtain ⟨pattern, after, runPattern, readField, rfl⟩ := read?_iff_readField?.1 read
    rcases readField?_eq_some_iff.1 readField with
      ⟨rfl, rfl⟩ | ⟨field, after, runField, readType, rfl⟩
    · exact ⟨⟨runPattern, by simp, by simp, by simp⟩, by simp [chars]⟩
    rcases readType?_eq_some_iff.1 readType with ⟨rfl, rfl⟩ | ⟨type, runType, rfl, rfl⟩
    · exact ⟨⟨runPattern, by simpa using runField, by simp, by simp⟩, by simp [chars]⟩
    · exact ⟨⟨runPattern, by simpa using runField, by simpa using runType, by simp⟩,
        by simp [chars]⟩
  · rintro ⟨⟨runPattern, runField, runType, typed⟩, rfl⟩
    rw [read?_iff_readField?]
    match token with
    | ⟨pattern, none, none⟩ =>
      exact ⟨pattern, '\x7d' :: rest, runPattern, rfl, by simp [chars]⟩
    | ⟨pattern, none, some type⟩ => simp at typed
    | ⟨pattern, some field, none⟩ =>
      have readType : readType? pattern field ('\x7d' :: rest) =
          some (⟨pattern, some field, none⟩, rest) := rfl
      refine ⟨pattern, _, runPattern,
        readField?_eq_some_iff.2 (.inr ⟨field, _, runField field rfl, readType, rfl⟩), ?_⟩
      simp [chars]
    | ⟨pattern, some field, some type⟩ =>
      have readType : readType? pattern field (':' :: (type.toList ++ '\x7d' :: rest)) =
          some (⟨pattern, some field, some type⟩, rest) :=
        readType?_eq_some_iff.2 (.inr ⟨type, runType type rfl, rfl, rfl⟩)
      refine ⟨pattern, _, runPattern,
        readField?_eq_some_iff.2 (.inr ⟨field, _, runField field rfl, readType, rfl⟩), ?_⟩
      simp [chars]

/-- A token stands where it stood when more text follows. -/
theorem read?_append (read : read? cs = some (token, rest)) (more : List Char) :
    read? (cs ++ more) = some (token, rest ++ more) := by
  obtain ⟨wellFormed, rfl⟩ := read?_eq_some_iff.1 read
  exact read?_eq_some_iff.2 ⟨wellFormed, List.append_assoc ..⟩

theorem WellFormed.not_mem_chars (wellFormed : token.WellFormed) (separates : Separates c) :
    c ∉ token.chars := by
  obtain ⟨noField, noMark⟩ := separates
  have noWord : isWord c = false := by
    rw [isFieldChar, Bool.or_eq_false_iff, Bool.or_eq_false_iff] at noField
    exact noField.1.1
  have inPattern : c ∉ token.pattern.toList := fun member => by
    simp [wellFormed.pattern.2 c member] at noWord
  have inField : ∀ text ∈ token.field, c ∉ text.toList := fun text some member => by
    simp [(wellFormed.field text some).2 c member] at noField
  have inType : ∀ text ∈ token.type, c ∉ text.toList := fun text some member => by
    simp [(wellFormed.type text some).2 c member] at noWord
  obtain ⟨pattern, field, type⟩ := token
  cases field <;> cases type <;> simp_all [chars]

/-! ### Texts without tokens -/

theorem first?_cons_eq_none :
    first? (c :: cs) = none ↔ read? (c :: cs) = none ∧ first? cs = none := by
  rw [first?]
  cases read? (c :: cs) with
  | none => simp
  | some pair => simp

/-- A text is what stands before its first token, the token, and what stands after it. -/
theorem first?_eq_append {split : Split} (found : first? cs = some split) :
    split.token.WellFormed ∧ cs = split.before ++ split.token.chars ++ split.after := by
  induction cs generalizing split with
  | nil => cases found
  | cons c cs ih =>
    rw [first?] at found
    split at found
    · next read =>
      cases found
      simpa using read?_eq_some_iff.1 read
    · obtain ⟨inner, foundInner, rfl⟩ := Option.map_eq_some_iff.1 found
      obtain ⟨wellFormed, text⟩ := ih foundInner
      exact ⟨wellFormed, congrArg (c :: ·) text⟩

/-- No token stands before the first one, not even one that is cut off by it. -/
theorem first?_before {split : Split} (found : first? cs = some split) :
    first? split.before = none := by
  induction cs generalizing split with
  | nil => cases found
  | cons c cs ih =>
    rw [first?] at found
    split at found
    · cases found
      rfl
    · next unread =>
      obtain ⟨inner, foundInner, rfl⟩ := Option.map_eq_some_iff.1 found
      refine first?_cons_eq_none.2 ⟨?_, ih foundInner⟩
      cases read : read? (c :: inner.before) with
      | none => rfl
      | some pair =>
        have longer := read?_append read (inner.token.chars ++ inner.after)
        have text : c :: inner.before ++ (inner.token.chars ++ inner.after) = c :: cs := by
          rw [List.cons_append, ← List.append_assoc, ← (first?_eq_append foundInner).2]
        rw [text, unread] at longer
        cases longer

/-- Characters that begin no token add none in front of a text. -/
theorem first?_append_of_ne (behind : first? right = none) (begins : '%' ∉ left) :
    first? (left ++ right) = none := by
  induction left with
  | nil => exact behind
  | cons c left ih =>
    rw [List.mem_cons, not_or] at begins
    refine first?_cons_eq_none.2 ⟨?_, ih begins.2⟩
    rw [read?]
    intro rest same
    exact begins.1 (List.cons_eq_cons.1 same).1.symm

/-- No token reaches over a separating character. -/
theorem first?_append_separator (separates : Separates c) (before : first? left = none)
    (behind : first? (c :: right) = none) : first? (left ++ c :: right) = none := by
  induction left with
  | nil => exact behind
  | cons d left ih =>
    obtain ⟨unread, before⟩ := first?_cons_eq_none.1 before
    refine first?_cons_eq_none.2 ⟨?_, ih before⟩
    cases read : read? (d :: left ++ c :: right) with
    | none => exact read
    | some pair =>
      obtain ⟨wellFormed, text⟩ := read?_eq_some_iff.1 read
      -- The token ends before the separator, so it can be read without what follows.
      rcases List.append_eq_append_iff.1 text with ⟨beyond, reaches, rest⟩ | ⟨after, within, _⟩
      · cases beyond with
        | nil =>
          have whole := read?_eq_some_iff.2 ⟨wellFormed, (List.append_nil _).symm⟩
          rw [reaches, List.append_nil, unread] at whole
          cases whole
        | cons e beyond =>
          obtain ⟨rfl, _⟩ := List.cons_eq_cons.1 rest
          exact absurd (by simp [reaches]) (wellFormed.not_mem_chars separates)
      · rw [read?_eq_some_iff.2 ⟨wellFormed, within⟩] at unread
        cases unread

end LogSift.Token
