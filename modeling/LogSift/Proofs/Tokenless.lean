import LogSift.Proofs.Alias
import LogSift.Proofs.Expandable
import LogSift.Proofs.Grammar
import LogSift.Regex.Footprint

/-!
Nothing is left to expand. The heads of groups and the parentheses behind them keep the texts of
different bodies apart, so no token comes about where they meet (`Nests.tokenless`); an expanded
expression is its own expansion.
-/

namespace LogSift

open Token (Separates first?_append_of_ne first?_append_separator)

theorem FieldName.mem_encodeChars {c : Char} {cs : List Char} (member : c ∈ encodeChars cs) :
    c = '_' ∨ c ∈ cs := by
  induction cs with
  | nil => cases member
  | cons d cs ih =>
    by_cases dot : d = '.'
    · subst dot
      rw [encodeChars] at member
      simp only [List.mem_cons] at member ⊢
      rcases member with same | same | same | later
      · exact .inl same
      · exact .inl same
      · exact .inl same
      · exact (ih later).imp_right .inr
    · rw [encodeChars.eq_3 _ _ dot] at member
      rcases List.mem_cons.1 member with rfl | later
      · exact .inr List.mem_cons_self
      · exact (ih later).imp_right (.tail _)

namespace Expansion

variable {library : Library} {expression : String} {namedOnly : Bool} {maxDepth : Nat}
  {openNames : List String} {naming entry : Naming} {token : Token} {group : Option String}

/-- The characters of group names: those of fields, and the sign of a number that has come round. -/
def isGroupChar (c : Char) : Bool := Token.isFieldChar c || c == '-'

theorem isGroupChar_showInt {n : Int} {c : Char} (member : c ∈ (Decimal.showInt n).toList) :
    isGroupChar c = true := by
  have digits (inside : c ∈ Decimal.natDigits n.natAbs) : isGroupChar c = true := by
    obtain ⟨d, small, rfl⟩ := Decimal.mem_natDigits inside
    exact (by decide : ∀ d < 10, isGroupChar (Decimal.digitChar d) = true) d small
  rw [Decimal.showInt, String.toList_ofList, Decimal.intDigits] at member
  split at member
  · rcases List.mem_cons.1 member with rfl | inside
    · decide
    · exact digits inside
  · exact digits member

/-- The name of a group has the characters of its field, lines for the dots, and a number at the
    end. -/
theorem isGroupChar_freshGroup {used : Std.TreeSet String} {field : String} {c : Char}
    (chars : ∀ c ∈ field.toList, Token.isFieldChar c = true)
    (member : c ∈ (freshGroup used (FieldName.encode field)).toList) : isGroupChar c = true := by
  have encoded (inside : c ∈ (FieldName.encode field).toList) : isGroupChar c = true := by
    rw [FieldName.encode, String.toList_ofList] at inside
    rcases FieldName.mem_encodeChars inside with rfl | own
    · decide
    · rw [isGroupChar, chars c own, Bool.true_or]
  rcases freshGroup_cases used (FieldName.encode field) with ⟨_, same⟩ | ⟨_, n, _, same, _⟩
  · rw [same] at member
    exact encoded member
  · rw [same, numbered, String.toList_append, String.toList_append, List.mem_append,
      List.mem_append] at member
    rcases member with (inside | line) | number
    · exact encoded inside
    · obtain rfl : c = '_' := by simpa using line
      decide
    · exact isGroupChar_showInt number

theorem isFieldChar_of_fieldName? {field : String} (wellFormed : token.WellFormed)
    (captures : token.fieldName? namedOnly = some field) :
    ∀ c ∈ field.toList, Token.isFieldChar c = true := by
  intro c member
  rw [Token.fieldName?] at captures
  cases named : token.field with
  | some other =>
    obtain rfl : other = field := by simpa [named] using captures
    exact (wellFormed.field other named).2 c member
  | none =>
    cases namedOnly with
    | true => simp [named] at captures
    | false =>
      obtain rfl : token.pattern = field := by simpa [named] using captures
      simp [Token.isFieldChar, wellFormed.pattern.2 c member]

/-- The name of a token's group has no other characters than group names have. -/
theorem isGroupChar_of_enter {name : String} (wellFormed : token.WellFormed)
    (entered : naming.enter token namedOnly = .ok (some name, entry)) :
    ∀ c ∈ name.toList, isGroupChar c = true := by
  intro c member
  rcases Naming.enter_cases entered with ⟨_, none, _⟩ | ⟨field, captures, _, same, _⟩
  · cases none
  · cases same
    exact isGroupChar_freshGroup (isFieldChar_of_fieldName? wellFormed captures) member

/-- The head of a token's group holds no percent sign. -/
theorem percent_not_mem_head (wellFormed : token.WellFormed)
    (entered : naming.enter token namedOnly = .ok (group, entry)) : '%' ∉ head group := by
  cases group with
  | none => simp [head]
  | some name =>
    have absent : '%' ∉ name.toList := fun member =>
      absurd (isGroupChar_of_enter wellFormed entered '%' member) (by decide)
    simp [head, absent]

theorem separates_opening : Separates '(' := by decide

theorem separates_closing : Separates ')' := by decide

theorem head_eq_cons (group : Option String) : ∃ rest, head group = '(' :: rest := by
  cases group with
  | none => exact ⟨_, rfl⟩
  | some group => exact ⟨_, rfl⟩

/-- The expansion of a text holds no token: none in its parts, and none where they meet. -/
theorem Nests.tokenless {text expanded : List Char} {final : Naming}
    (nests : Nests library namedOnly maxDepth openNames naming text expanded final) :
    Token.first? expanded = none := by
  induction nests with
  | plain split => exact split
  | @token _ _ _ _ _ _ before _ inner later _ _ group split _ _ _ entered _ _ ihInside ihBehind =>
    -- Put together from behind: each separator is met with what follows it already in place.
    have closed : Token.first? ([')'] ++ later) = none :=
      first?_append_of_ne ihBehind (by decide)
    have inside : Token.first? (inner ++ ')' :: later) = none :=
      first?_append_separator separates_closing ihInside closed
    have headed : Token.first? (head group ++ (inner ++ ')' :: later)) = none :=
      first?_append_of_ne inside (percent_not_mem_head (Token.first?_eq_append split).1 entered)
    obtain ⟨rest, opening⟩ := head_eq_cons group
    rw [opening] at headed
    have whole := first?_append_separator separates_opening (Token.first?_before split) headed
    simpa [opening] using whole

/-- A text without tokens is its own expansion, with nothing captured. -/
theorem expand_of_tokenless [Regex.Engine] (library : Library) (namedOnly : Bool) (maxDepth : Nat)
    (tokenless : Token.first? expression.toList = none) :
    library.expand expression namedOnly maxDepth = .ok ⟨[.text expression.toList], ∅, ∅⟩ := by
  rw [Library.expand_eq_run, run_of_none tokenless, run]
  rfl

/-- An expanded expression holds no token, whatever was put together, so expanding it again, with
    any library, in either mode and under any limit, changes nothing and captures nothing. -/
theorem expand_tokenless [Regex.Engine] (library : Library) (expression : String) (namedOnly : Bool)
    (maxDepth : Nat) (result : Expansion)
    (expanded : library.expand expression namedOnly maxDepth = .ok result) :
    Token.all result.source = [] ∧
    ∀ (other : Library) (mode : Bool) (limit : Nat), ∃ again : Expansion,
      other.expand result.source mode limit = .ok again ∧ again.source = result.source ∧
      again.captures = ∅ ∧ again.fieldHints = ∅ ∧ ∀ group, again.hintOf? group = none := by
  have tokenless : Token.first? result.source.toList = none :=
    (nested_eq_ok_iff.1 (nested_of_expand expanded)).tokenless
  refine ⟨Token.tokens_of_none tokenless, fun other mode limit => ?_⟩
  refine ⟨_, expand_of_tokenless other mode limit tokenless, ?_, rfl, rfl, fun group => ?_⟩
  · simp [source]
  · simp [hintOf?]

/-- A definition that leaves the beginning of a token behind. -/
def severed : Library := (Library.withBuiltin false).insert "PERCENT" "%"

theorem severed_expands [Regex.Engine] : ∃ result : Expansion,
    severed.expand "%{PERCENT}{PERCENT}" true 1 = .ok result ∧
      result.source = "(?:%){PERCENT}" := by
  have found : severed.lookup? "PERCENT" = some "%" := by decide +kernel
  have split : Token.first? "%{PERCENT}{PERCENT}".toList =
      some ⟨[], ⟨"PERCENT", none, none⟩, "{PERCENT}".toList⟩ := by decide +kernel
  have entered : Naming.enter {} ⟨"PERCENT", none, none⟩ true = .ok (none, {}) := rfl
  have nests : Nests severed true 1 [] {} "%{PERCENT}{PERCENT}".toList "(?:%){PERCENT}".toList {} :=
    .token split List.not_mem_nil Nat.one_pos found entered (.plain (by decide +kernel))
      (.plain (by decide +kernel))
  have whole := expand_nested severed "%{PERCENT}{PERCENT}" true 1
  rw [nested_eq_ok_iff.2 nests] at whole
  obtain ⟨result, expanded, source, _⟩ := whole
  exact ⟨result, expanded, by simpa using source⟩

theorem expand_tokenless_severed : ∃ result : Expansion,
    severed.expand "%{PERCENT}{PERCENT}" true 1 = .ok result ∧
    result.source = "(?:%){PERCENT}" ∧ Token.all result.source = [] ∧
    ∀ (other : Library) (mode : Bool) (limit : Nat), ∃ again : Expansion,
      other.expand result.source mode limit = .ok again ∧ again.source = result.source ∧
      again.captures = ∅ ∧ again.fieldHints = ∅ ∧ ∀ group, again.hintOf? group = none := by
  obtain ⟨result, expanded, source⟩ := severed_expands
  exact ⟨result, expanded, source, expand_tokenless severed _ true 1 result expanded⟩

end Expansion

end LogSift
