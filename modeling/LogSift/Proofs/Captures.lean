import LogSift.Proofs.Alias
import LogSift.Proofs.Expandable
import LogSift.Regex.Footprint

/-!
The groups of an expanded expression and the fields that they capture. Expansion opens the tokens of
the expression in depth (`Runs.opens`), and `captures` is a record of the named groups that it opens
for them: every group has a name of its own and the field of its own token (`Runs.records`).
-/

namespace LogSift.Expansion

open Std (TreeMap)

/-- The token that a piece opens a group for, and the name of the group if it has one. -/
def Piece.opening? : Piece → Option (Token × Option String)
  | text _ => none
  | opening token group => some (token, group)
  | closing => none

/-- The groups that are opened for tokens, in order. -/
def openings (expansion : Expansion) : List (Token × Option String) :=
  expansion.pieces.filterMap Piece.opening?

/-- The groups that have been opened, the last one first. -/
def Output.openings (out : Output) : List (Token × Option String) :=
  out.pieces.filterMap Piece.opening?

/-- Tokens are opened in depth: a token, then those of its body and what these lead to, and then
    the tokens behind it. -/
inductive Opens (library : Library) : List Token → List Token → Prop where
  | done : Opens library [] []
  | token {token : Token} {body : String} {rest opened : List Token}
      (found : library.lookup? token.pattern = some body)
      (inside : Opens library (Token.all body ++ rest) opened) :
      Opens library (token :: rest) (token :: opened)

/-- A table records groups: those of tokens that capture a field have names, no two the same, and
    the table tells of every name the field of its token, and of nothing else. -/
structure Records (namedOnly : Bool) (openings : List (Token × Option String))
    (captures : TreeMap String String) : Prop where
  named : ∀ token group, (token, group) ∈ openings →
    (group = none ↔ token.fieldName? namedOnly = none)
  distinct : (openings.filterMap (·.2)).Nodup
  fields : ∀ group field, captures[group]? = some field ↔
    ∃ token, (token, some group) ∈ openings ∧ token.fieldName? namedOnly = some field

variable {library : Library} {expression : String} {namedOnly : Bool} {maxDepth : Nat}
  {opened : List (Token × Option String)} {captures : TreeMap String String} {token : Token}
  {group field : String} {out finished : Output} {frames : List Frame}

/-! ### Records -/

theorem records_nil : Records namedOnly [] ∅ := by
  refine ⟨?_, List.nodup_nil, ?_⟩
  · intro token group member
    cases member
  · intro group field
    simp

/-- A name that the table does not tell of is that of no group. -/
theorem Records.absent (records : Records namedOnly opened captures)
    (free : captures.contains group = false) (token : Token) : (token, some group) ∉ opened := by
  intro member
  cases captured : token.fieldName? namedOnly with
  | none => cases (records.named token (some group) member).2 captured
  | some field =>
    have told := (records.fields group field).2 ⟨token, member, captured⟩
    rw [TreeMap.contains_eq_isSome_getElem?, told] at free
    cases free

/-- A token that captures nothing leaves the table as it is. -/
theorem Records.pass (records : Records namedOnly opened captures)
    (silent : token.fieldName? namedOnly = none) :
    Records namedOnly ((token, none) :: opened) captures := by
  refine ⟨?_, ?_, ?_⟩
  · intro other group member
    rcases List.mem_cons.1 member with same | member
    · cases same
      simp [silent]
    · exact records.named other group member
  · exact records.distinct
  · intro group field
    rw [records.fields]
    simp

/-- A token that captures a field is put in the table under a name that is free. -/
theorem Records.capture (records : Records namedOnly opened captures)
    (captured : token.fieldName? namedOnly = some field)
    (free : captures.contains group = false) :
    Records namedOnly ((token, some group) :: opened) (captures.insert group field) := by
  have absent := records.absent free
  refine ⟨?_, ?_, ?_⟩
  · intro other name member
    rcases List.mem_cons.1 member with same | member
    · cases same
      simp [captured]
    · exact records.named other name member
  · refine List.nodup_cons.2 ⟨fun member => ?_, records.distinct⟩
    obtain ⟨⟨other, _⟩, member, rfl⟩ := List.mem_filterMap.1 member
    exact absent other member
  · intro name other
    rw [TreeMap.getElem?_insert]
    by_cases same : group = name
    · subst same
      rw [if_pos (by simp), Option.some.injEq]
      constructor
      · rintro rfl
        exact ⟨token, List.mem_cons_self, captured⟩
      · rintro ⟨owner, member, told⟩
        rcases List.mem_cons.1 member with here | member
        · cases here
          exact Option.some.inj (captured.symm.trans told)
        · exact absurd member (absent owner)
    · rw [if_neg (by simpa using same), records.fields]
      refine exists_congr fun owner => and_congr_left fun _ => ?_
      have differs : (owner, some name) ≠ (token, some group) := fun equal =>
        same (Option.some.inj (congrArg Prod.snd equal)).symm
      simp [differs]

/-- The order of the groups does not matter to the record. -/
theorem Records.reverse (records : Records namedOnly opened captures) :
    Records namedOnly opened.reverse captures := by
  refine ⟨?_, ?_, ?_⟩
  · intro token group member
    exact records.named token group (List.mem_reverse.1 member)
  · rw [List.filterMap_reverse]
    exact List.nodup_reverse.2 records.distinct
  · intro group field
    simpa using records.fields group field

/-! ### Runs -/

/-- To open a token adds its group to those opened. -/
theorem openings_openToken {entered : Output} {before : List Char}
    (opened : (out.emit (.text before)).openToken token namedOnly = .ok entered) :
    ∃ group, entered.openings = (token, group) :: out.openings ∧
      out.naming.enter token namedOnly = .ok (group, entered.naming) := by
  obtain ⟨group, named, pieces, _⟩ := enter_of_openToken opened
  exact ⟨group, congrArg (List.filterMap Piece.opening?) pieces, named⟩

/-- One token more is recorded as the tokens before it. -/
theorem Records.openToken {entered : Output} {before : List Char}
    (records : Records namedOnly out.openings out.captures)
    (opened : (out.emit (.text before)).openToken token namedOnly = .ok entered) :
    Records namedOnly entered.openings entered.captures := by
  obtain ⟨group, openings, named⟩ := openings_openToken opened
  rw [openings]
  rcases Naming.enter_cases named with ⟨silent, rfl, same⟩ | ⟨field, captured, _, rfl, table, _⟩
  · have kept : entered.captures = out.captures := congrArg Naming.captures same
    rw [kept]
    exact records.pass silent
  · have told : entered.captures = _ := table
    rw [told]
    exact records.capture captured (contains_freshGroup ..)

/-- What has been opened stays recorded to the end of a run. -/
theorem Runs.records (runs : Runs library namedOnly maxDepth frames out finished)
    (records : Records namedOnly out.openings out.captures) :
    Records namedOnly finished.openings finished.captures := by
  induction runs with
  | done => exact records
  | @leave name _ _ _ _ _ _ onward => exact onward (by cases name <;> exact records)
  | enter _ _ opened _ onward => exact onward (records.openToken opened)

/-- A run opens the tokens that its frames have still to read, those of the innermost first. -/
theorem Runs.opens (runs : Runs library namedOnly maxDepth frames out finished) :
    ∃ opened, finished.openings.map (·.1) = opened.reverse ++ out.openings.map (·.1) ∧
      Opens library (frames.flatMap fun frame => Token.tokens frame.rest) opened := by
  induction runs with
  | done => exact ⟨[], rfl, .done⟩
  | @leave name _ _ _ _ split _ onward =>
    obtain ⟨opened, openings, opens⟩ := onward
    refine ⟨opened, ?_, ?_⟩
    · rw [openings]
      cases name <;> rfl
    · simpa [Token.tokens_of_none split] using opens
  | @enter _ _ _ _ token _ _ _ _ _ split found entered _ onward =>
    obtain ⟨later, openings, opens⟩ := onward
    obtain ⟨group, added, _⟩ := openings_openToken entered
    refine ⟨token :: later, ?_, ?_⟩
    · simp [openings, added]
    · simp only [List.flatMap_cons, Token.tokens_of_some split, List.cons_append] at opens ⊢
      exact .token (lookup?_of_body found) opens

/-! ### Results -/

/-- The groups of a result are those opened by the run, in the order of the expression. -/
theorem openings_ofOutput (out : Output) : (ofOutput out).openings = out.openings.reverse :=
  List.filterMap_reverse

/-- The head of a group stands in the regular expression where the group is opened. -/
theorem source_of_opening {result : Expansion} {before after : List Piece} {group : Option String}
    (pieces : result.pieces = before ++ .opening token group :: after) :
    result.source.toList =
      before.flatMap Piece.chars ++ head group ++ after.flatMap Piece.chars := by
  rw [source, String.toList_ofList, pieces]
  simp

/-- The groups opened by an expansion and the table of its captures correspond one to one. The
    groups are those of the tokens of the expression and, in depth, of the bodies they lead to; each
    stands in the regular expression under its own name; and however names of fields and aliases
    meet, the table tells of every group name the field of its own token. -/
theorem captures_record [Regex.Engine] (library : Library) (expression : String) (namedOnly : Bool)
    (maxDepth : Nat) (result : Expansion)
    (expanded : library.expand expression namedOnly maxDepth = .ok result) :
    Opens library (Token.all expression) (result.openings.map (·.1)) ∧
    Records namedOnly result.openings result.captures ∧
    ∀ before token group after, result.pieces = before ++ .opening token (some group) :: after →
      result.source.toList = before.flatMap Piece.chars ++
        ("(?P<".toList ++ group.toList ++ ">".toList) ++ after.flatMap Piece.chars := by
  obtain ⟨finished, runs, rfl⟩ := expand_eq_ok_iff.1 expanded
  refine ⟨?_, ?_, fun _ _ _ _ pieces => source_of_opening pieces⟩
  · obtain ⟨opened, openings, opens⟩ := runs.opens
    have all : finished.openings.map (·.1) = opened.reverse := openings.trans (List.append_nil _)
    rw [openings_ofOutput, List.map_reverse, all, List.reverse_reverse]
    exact List.append_nil (Token.all expression) ▸ opens
  · rw [openings_ofOutput]
    exact (runs.records records_nil).reverse

/-- A token with a field is entered under the fresh group name of the field. -/
theorem Naming.enter_field {naming : Naming} {pattern : String} {type : Option String}
    (encodable : FieldName.isReserved field = false)
    (fresh : freshGroup (namesOf naming.captures) (FieldName.encode field) = group) :
    naming.enter ⟨pattern, some field, type⟩ namedOnly = .ok (some group,
      ⟨naming.captures.insert group field, match type with
        | none => naming.fieldHints
        | some type => naming.fieldHints.insert field (.ofWord type)⟩) := by
  cases type with
  | none => simp [Naming.enter, Token.fieldName?, encodable, fresh]
  | some type => simp [Naming.enter, Token.fieldName?, encodable, fresh]

/-- A token with a field becomes a group around its body, if that holds no tokens. -/
theorem nests_group {naming final : Naming} {text before after rear : List Char}
    {pattern body : String}
    (split : Token.first? text = some ⟨before, ⟨pattern, some field, none⟩, after⟩)
    (found : library.lookup? pattern = some body) (tokenless : Token.first? body.toList = none)
    (encodable : FieldName.isReserved field = false)
    (fresh : freshGroup (namesOf naming.captures) (FieldName.encode field) = group)
    (deep : 0 < maxDepth)
    (later : Nests library namedOnly maxDepth []
      ⟨naming.captures.insert group field, naming.fieldHints⟩ after rear final) :
    Nests library namedOnly maxDepth [] naming text
      (before ++ head (some group) ++ body.toList ++ ")".toList ++ rear) final := by
  exact .token split List.not_mem_nil deep found (Naming.enter_field encodable fresh)
    (.plain tokenless) later

/-- A library for fields that are named like the aliases of others. -/
def letters : Library := (Library.withBuiltin false).insert "A" "a"

/-- The first alias of `x` is taken by a field of that name, so `x` gets the second one. -/
theorem letters_expands [Regex.Engine] : ∃ result : Expansion,
    letters.expand "%{A:x__2}%{A:x}%{A:x}" true 1 = .ok result ∧
      result.source = "(?P<x__2>a)(?P<x>a)(?P<x__3>a)" ∧ result.captures["x__3"]? = some "x" := by
  have split₁ : Token.first? "%{A:x__2}%{A:x}%{A:x}".toList =
      some ⟨[], ⟨"A", some "x__2", none⟩, "%{A:x}%{A:x}".toList⟩ := by decide +kernel
  have split₂ : Token.first? "%{A:x}%{A:x}".toList =
      some ⟨[], ⟨"A", some "x", none⟩, "%{A:x}".toList⟩ := by decide +kernel
  have split₃ : Token.first? "%{A:x}".toList = some ⟨[], ⟨"A", some "x", none⟩, []⟩ := by
    decide +kernel
  have fresh₁ : freshGroup (namesOf ∅) "x__2" = "x__2" := by decide +kernel
  have fresh₂ : freshGroup (namesOf ((∅ : TreeMap String String).insert "x__2" "x__2")) "x" =
      "x" := by decide +kernel
  have fresh₃ : freshGroup (namesOf (((∅ : TreeMap String String).insert "x__2" "x__2").insert
      "x" "x")) "x" = "x__3" := by decide +kernel
  have carried₁ : FieldName.isReserved "x__2" = false := by decide +kernel
  have carried : FieldName.isReserved "x" = false := by decide +kernel
  have found : letters.lookup? "A" = some "a" := by decide +kernel
  have plain : Token.first? "a".toList = none := by decide +kernel
  have nests : Nests letters true 1 [] {} "%{A:x__2}%{A:x}%{A:x}".toList _ _ :=
    nests_group split₁ found plain carried₁ fresh₁ Nat.one_pos <|
      nests_group split₂ found plain carried fresh₂ Nat.one_pos <|
        nests_group split₃ found plain carried fresh₃ Nat.one_pos <| .plain rfl
  have whole := expand_nested letters "%{A:x__2}%{A:x}%{A:x}" true 1
  rw [nested_eq_ok_iff.2 nests] at whole
  obtain ⟨result, expanded, source, captures, _⟩ := whole
  refine ⟨result, expanded, source.trans (by decide +kernel), ?_⟩
  rw [captures]
  decide +kernel

theorem captures_record_letters : ∃ result : Expansion,
    letters.expand "%{A:x__2}%{A:x}%{A:x}" true 1 = .ok result ∧
    result.source = "(?P<x__2>a)(?P<x>a)(?P<x__3>a)" ∧ result.captures["x__3"]? = some "x" ∧
    Opens letters (Token.all "%{A:x__2}%{A:x}%{A:x}") (result.openings.map (·.1)) ∧
    Records true result.openings result.captures ∧
    ∀ before token group after, result.pieces = before ++ .opening token (some group) :: after →
      result.source.toList = before.flatMap Piece.chars ++
        ("(?P<".toList ++ group.toList ++ ">".toList) ++ after.flatMap Piece.chars := by
  obtain ⟨result, expanded, source, captures⟩ := letters_expands
  exact ⟨result, expanded, source, captures, captures_record letters _ true 1 result expanded⟩

end LogSift.Expansion
