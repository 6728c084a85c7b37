import LogSift.Proofs.Declared

/-!
The hints of groups, told by the occurrences of tokens. Expansion meets tokens in depth, those of the
expression and of all bodies it leads to. The last one that names a field together with a type
decides for all groups of the field, those of earlier tokens and of later ones; tokens that name the
field without a type decide nothing (`expand_hints`).
-/

namespace LogSift.Expansion

open Std (TreeMap)

/-- The type stands in the last one of some tokens that names the field and has a type. -/
def TypedLast (namedOnly : Bool) (tokens : List Token) (field type : String) : Prop :=
  ∃ before token after, tokens = before ++ token :: after ∧
    token.fieldName? namedOnly = some field ∧ token.type = some type ∧
    ∀ later ∈ after, later.fieldName? namedOnly = some field → later.type = none

/-- The hints of an expansion go by the last types: the hint of a group is what the last type of its
    field is read as, a group has none if no token of its field has a type, tokens without a type
    could as well be missing, and nothing but the groups of tokens has hints. -/
structure HintsLast (namedOnly : Bool) (expansion : Expansion) : Prop where
  last : ∀ group field, expansion.captures[group]? = some field →
    ∀ hint, expansion.hintOf? group = some hint ↔
      ∃ type, TypedLast namedOnly expansion.tokens field type ∧ Hint.ofWord type = hint
  untyped : ∀ group field, expansion.captures[group]? = some field →
    (expansion.hintOf? group = none ↔
      ∀ token ∈ expansion.tokens, token.fieldName? namedOnly = some field → token.type = none)
  silent : ∀ before token after, expansion.tokens = before ++ token :: after →
    token.type = none → ∀ field type, TypedLast namedOnly expansion.tokens field type ↔
      TypedLast namedOnly (before ++ after) field type
  outside : ∀ group, expansion.captures[group]? = none → expansion.hintOf? group = none

variable {library : Library} {expression : String} {namedOnly : Bool} {maxDepth : Nat}
  {expansion : Expansion} {tokens before after : List Token} {token : Token}
  {group field type : String} {hint : Hint}

/-! ### Occurrences -/

/-- The type of a token, if it names the field. -/
def typed? (namedOnly : Bool) (field : String) (token : Token) : Option String :=
  if token.fieldName? namedOnly = some field then token.type else none

theorem typed?_eq_some :
    typed? namedOnly field token = some type ↔
      token.fieldName? namedOnly = some field ∧ token.type = some type := by
  simp [typed?]

theorem typed?_eq_none :
    typed? namedOnly field token = none ↔
      (token.fieldName? namedOnly = some field → token.type = none) := by
  simp [typed?]

theorem declares?_eq_map_typed? (namedOnly : Bool) (field : String) :
    declares? namedOnly field = fun token => (typed? namedOnly field token).map Hint.ofWord := by
  funext token
  by_cases own : token.fieldName? namedOnly = some field
  · simp [declares?, typed?, own]
  · simp [declares?, typed?, own]

theorem typedLast_iff : TypedLast namedOnly tokens field type ↔
    tokens.reverse.findSome? (typed? namedOnly field) = some type := by
  rw [findSome?_reverse_eq_some_iff]
  simp only [typed?_eq_some, typed?_eq_none, and_assoc, TypedLast]

/-- The hint declared last is what the last type is read as. -/
theorem declared?_eq_some : declared? namedOnly tokens field = some hint ↔
    ∃ type, TypedLast namedOnly tokens field type ∧ Hint.ofWord type = hint := by
  simp only [declared?, declares?_eq_map_typed?, typedLast_iff, ← Option.map_eq_some_iff,
    List.map_findSome?]
  rfl

theorem declared?_eq_none : declared? namedOnly tokens field = none ↔
    ∀ token ∈ tokens, token.fieldName? namedOnly = some field → token.type = none := by
  simp [declared?, declares?_eq_map_typed?, List.findSome?_eq_none_iff, typed?_eq_none]

/-- A token without a type does not change which type is the last. -/
theorem typedLast_of_silent (silent : token.type = none) :
    TypedLast namedOnly (before ++ token :: after) field type ↔
      TypedLast namedOnly (before ++ after) field type := by
  have passed : typed? namedOnly field token = none := typed?_eq_none.2 fun _ => silent
  simp [typedLast_iff, passed]

/-! ### Expansions -/

/-- Expansion opens the tokens of the expression in depth, and the hints go by the last types of
    these. -/
theorem expand_hints [Regex.Engine]
    (library : Library) (expression : String) (namedOnly : Bool) (maxDepth : Nat)
    (expansion : Expansion)
    (expanded : library.expand expression namedOnly maxDepth = .ok expansion) :
    Opens library (Token.all expression) expansion.tokens ∧ expansion.HintsLast namedOnly := by
  refine ⟨opens_of_expand expanded, ?_, ?_, ?_, ?_⟩
  · intro group field captured hint
    rw [hintOf?_of_captured expanded captured]
    exact declared?_eq_some
  · intro group field captured
    rw [hintOf?_of_captured expanded captured]
    exact declared?_eq_none
  · intro before token after split silent field type
    rw [split]
    exact typedLast_of_silent silent
  · intro group absent
    simp [hintOf?, absent]

/-- A library in which a body declares a type. -/
def counts : Library := ((Library.withBuiltin false).insert "A" "a").insert "B" "%{A:f:int}"

/-- The type in the body comes last, and all groups of the field have it, though the first token
    declares another one. -/
theorem counts_expands : ∃ expansion : Expansion,
    counts.expand "%{A:f:float}%{B:f}" true 2 = .ok expansion ∧
    expansion.source = "(?P<f>a)(?P<f__2>(?P<f__3>a))" ∧
    ∀ group ∈ ["f", "f__2", "f__3"], expansion.hintOf? group = some .int := by
  have split₁ : Token.first? "%{A:f:float}%{B:f}".toList =
      some ⟨[], ⟨"A", some "f", some "float"⟩, "%{B:f}".toList⟩ := by decide
  have split₂ : Token.first? "%{B:f}".toList = some ⟨[], ⟨"B", some "f", none⟩, []⟩ := by decide
  have split₃ : Token.first? "%{A:f:int}".toList =
      some ⟨[], ⟨"A", some "f", some "int"⟩, []⟩ := by decide
  have foundA : counts.lookup? "A" = some "a" := by decide
  have foundB : counts.lookup? "B" = some "%{A:f:int}" := by decide
  have carried : FieldName.isReserved "f" = false := by decide
  have fresh₁ : freshGroup (namesOf ∅) (FieldName.encode "f") = "f" := by decide +kernel
  have fresh₂ : freshGroup (namesOf ((∅ : TreeMap String String).insert "f" "f"))
      (FieldName.encode "f") = "f__2" := by decide +kernel
  have fresh₃ : freshGroup (namesOf (((∅ : TreeMap String String).insert "f" "f").insert
      "f__2" "f")) (FieldName.encode "f") = "f__3" := by decide +kernel
  have nests : Nests counts true 2 [] {} "%{A:f:float}%{B:f}".toList _ _ :=
    .token split₁ List.not_mem_nil (by decide) foundA
        (Naming.enter_field carried fresh₁) (.plain rfl) <|
      .token split₂ List.not_mem_nil (by decide) foundB
        (Naming.enter_field carried fresh₂)
        (.token split₃ (by decide) (by decide) foundA (Naming.enter_field carried fresh₃)
          (.plain rfl) (.plain rfl))
        (.plain rfl)
  have whole := expand_nested counts "%{A:f:float}%{B:f}" true 2
  rw [nested_eq_ok_iff.2 nests] at whole
  obtain ⟨expansion, expanded, source, captures, fieldHints⟩ := whole
  refine ⟨expansion, expanded, source.trans (by decide), ?_⟩
  simp only [hintOf?, captures, fieldHints]
  decide

theorem expand_hints_counts : ∃ expansion : Expansion,
    counts.expand "%{A:f:float}%{B:f}" true 2 = .ok expansion ∧
    (∀ group ∈ ["f", "f__2", "f__3"], expansion.hintOf? group = some .int) ∧
    Opens counts (Token.all "%{A:f:float}%{B:f}") expansion.tokens ∧
    expansion.HintsLast true := by
  obtain ⟨expansion, expanded, _, hinted⟩ := counts_expands
  exact ⟨expansion, expanded, hinted, expand_hints counts _ true 2 expansion expanded⟩

end LogSift.Expansion
