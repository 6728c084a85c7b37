import LogSift.Proofs.Declared
import LogSift.Proofs.Validity

/-!
The two capture modes side by side. Expansions of one expression in both modes go through the same
frames (`run_abreast`): they open the same tokens and differ only in the names of the groups. Where
tokens without field are to capture, one of them may have a name that no group name can carry, and
this is the only failure that the other mode does not have (`expand_lockstep`).
-/

namespace LogSift.Expansion

open Std (TreeMap)

/-- The characters of a piece, with a marker for the head of a group. -/
def Piece.marked (marker : List Char) : Piece → List Char
  | text cs => cs
  | opening _ _ => marker
  | closing => [')']

/-- The regular expression, with a marker for every head of a group. -/
def marked (marker : List Char) (expansion : Expansion) : String :=
  .ofList (expansion.pieces.flatMap (Piece.marked marker))

/-- The groups opened for tokens that name a field, in order. -/
def named (expansion : Expansion) : List (Token × Option String) :=
  expansion.openings.filter (·.1.field.isSome)

/-- Groups of two results stand for the same token: its field is told of both, with one hint. -/
structure Same (one other : Expansion) (opened opened' : Token × Option String) : Prop where
  token : opened.1 = opened'.1
  groups : ∃ group group' field, opened.2 = some group ∧ opened'.2 = some group' ∧
    opened.1.field = some field ∧ one.captures[group]? = some field ∧
    other.captures[group']? = some field ∧ one.hintOf? group = other.hintOf? group'

/-- Results of the two modes that differ only in the names of groups, and in the captures of tokens
    without field. -/
structure Twins (only all : Expansion) : Prop where
  sources : ∀ marker, only.marked marker = all.marked marker
  tokens : only.tokens = all.tokens
  count : only.named.length = all.named.length
  pairs : ∀ (k : Nat) opened opened', only.named[k]? = some opened → all.named[k]? = some opened' →
    Same only all opened opened'
  captures : (only.named.map (·.2)).Perm (only.captures.keys.map some)

/-- A token without field that no group name can carry. -/
def Bars (library : Library) (expression : String) (token : Token) : Prop :=
  Occurs library expression token ∧ token.field = none ∧ FieldName.isReserved token.pattern = true

/-- A piece without the name of a group. -/
def Piece.anonymous : Piece → Piece
  | text cs => text cs
  | opening token _ => opening token none
  | closing => closing

/-- Two outputs that differ only in the names of groups and what these capture. -/
structure Lockstep (only all : Output) : Prop where
  pieces : only.pieces.map Piece.anonymous = all.pieces.map Piece.anonymous
  fieldHints : only.fieldHints = all.fieldHints

/-- How a run comes out in both modes: in lockstep, with one error, or with a token that bars it
    where all tokens capture. -/
inductive Abreast (library : Library) (expression : String) :
    Except Error Output → Except Error Output → Prop where
  | finished {only all : Output} (lockstep : Lockstep only all) :
      Abreast library expression (.ok only) (.ok all)
  | failed (e : Error) : Abreast library expression (.error e) (.error e)
  | barred {outcome : Except Error Output} {token : Token} (bars : Bars library expression token) :
      Abreast library expression outcome (.error (.reservedFieldName token.pattern))

variable {library : Library} {expression : String} {maxDepth : Nat} {only all : Output}
  {token : Token} {body : String} {frames : List Frame}

/-! ### Pieces -/

@[simp] theorem marked_anonymous (marker : List Char) (piece : Piece) :
    piece.anonymous.marked marker = piece.marked marker := by
  cases piece <;> rfl

@[simp] theorem opening?_anonymous (piece : Piece) :
    piece.anonymous.opening?.map (·.1) = piece.opening?.map (·.1) := by
  cases piece <;> rfl

theorem marked_eq_of_anonymous {one other : List Piece}
    (same : one.map Piece.anonymous = other.map Piece.anonymous) (marker : List Char) :
    one.flatMap (Piece.marked marker) = other.flatMap (Piece.marked marker) := by
  have whole := congrArg (List.flatMap (Piece.marked marker)) same
  simpa [List.flatMap_map] using whole

theorem tokens_eq_of_anonymous {one other : List Piece}
    (same : one.map Piece.anonymous = other.map Piece.anonymous) :
    (one.filterMap Piece.opening?).map (·.1) = (other.filterMap Piece.opening?).map (·.1) := by
  have whole := congrArg (List.filterMap fun piece => piece.opening?.map (·.1)) same
  simpa [List.filterMap_map, List.map_filterMap, Function.comp_def] using whole

/-! ### Runs -/

theorem Lockstep.emit (lockstep : Lockstep only all) (piece : Piece) :
    Lockstep (only.emit piece) (all.emit piece) :=
  ⟨congrArg (piece.anonymous :: ·) lockstep.pieces, lockstep.fieldHints⟩

theorem Lockstep.leave (lockstep : Lockstep only all) (name : Option String) (rest : List Char) :
    Lockstep (if name.isSome then (only.emit (.text rest)).emit .closing else only.emit (.text rest))
      (if name.isSome then (all.emit (.text rest)).emit .closing else all.emit (.text rest)) := by
  have emitted := lockstep.emit (.text rest)
  split
  · exact emitted.emit .closing
  · exact emitted

/-- A token with a field is opened alike in both modes; one without may be barred where it is to
    capture. -/
theorem Lockstep.openToken (lockstep : Lockstep only all)
    (typed : token.type.isSome → token.field.isSome) (occurs : Occurs library expression token) :
    Abreast library expression (only.openToken token true) (all.openToken token false) := by
  cases named : token.field with
  | some field =>
    by_cases reserved : FieldName.isReserved field = true
    · simp only [Output.openToken, Token.fieldName?, named, if_pos reserved]
      exact .failed _
    · simp only [Output.openToken, Token.fieldName?, named, if_neg reserved]
      refine .finished ⟨congrArg (Piece.opening token none :: ·) lockstep.pieces, ?_⟩
      cases token.type <;> simp [lockstep.fieldHints]
  | none =>
    have untyped : token.type = none := by simpa [named] using typed
    by_cases reserved : FieldName.isReserved token.pattern = true
    · simp only [Output.openToken, Token.fieldName?, named, Bool.false_eq_true, ↓reduceIte,
        reserved]
      exact .barred ⟨occurs, named, reserved⟩
    · simp only [Output.openToken, Token.fieldName?, named, Bool.false_eq_true, ↓reduceIte,
        reserved, untyped]
      exact .finished ⟨congrArg (Piece.opening token none :: ·) lockstep.pieces, lockstep.fieldHints⟩

/-- The first token of a text is opened alike in both modes, or barred. -/
theorem Lockstep.enter (lockstep : Lockstep only all) {rest before after : List Char}
    (split : Token.first? rest = some ⟨before, token, after⟩)
    (occurs : Occurs library expression token) :
    Abreast library expression ((only.emit (.text before)).openToken token true)
      ((all.emit (.text before)).openToken token false) :=
  (lockstep.emit (.text before)).openToken (Token.first?_eq_append split).1.typed occurs

theorem Occurs.reach (occurs : Occurs library expression token) :
    library.Reach (Token.patterns expression) token.pattern := by
  rcases occurs with stands | ⟨name, text, reach, defined, stands⟩
  · exact ⟨_, List.mem_map_of_mem stands, .refl⟩
  · exact reach.tail ⟨text, defined, List.mem_map_of_mem stands⟩

/-- What stands in the body of a token that occurs, occurs. -/
theorem Occurs.inside (occurs : Occurs library expression token)
    (found : library.lookup? token.pattern = some body) {inner : Token}
    (member : inner ∈ Token.all body) : Occurs library expression inner :=
  .inr ⟨token.pattern, body, occurs.reach, found, member⟩

/-- The tokens that frames have still to read occur. -/
def Pending (library : Library) (expression : String) (frames : List Frame) : Prop :=
  ∀ frame ∈ frames, ∀ token ∈ Token.tokens frame.rest, Occurs library expression token

theorem pending_start : Pending library expression [⟨none, expression.toList⟩] := by
  intro frame member token stands
  cases List.mem_singleton.1 member
  exact .inl stands

theorem Pending.leave {frame : Frame} {outer : List Frame}
    (pending : Pending library expression (frame :: outer)) : Pending library expression outer :=
  fun frame member => pending frame (List.mem_cons_of_mem _ member)

section

variable {name : Option String} {rest before after : List Char} {outer : List Frame}

theorem Pending.occurs (pending : Pending library expression (⟨name, rest⟩ :: outer))
    (split : Token.first? rest = some ⟨before, token, after⟩) : Occurs library expression token := by
  have stands := pending _ List.mem_cons_self
  rw [Token.tokens_of_some split] at stands
  exact stands token List.mem_cons_self

/-- Where a token is entered, its body and what follows the token are to be read. -/
theorem Pending.enter (pending : Pending library expression (⟨name, rest⟩ :: outer))
    (split : Token.first? rest = some ⟨before, token, after⟩)
    (found : library.lookup? token.pattern = some body) :
    Pending library expression (⟨some token.pattern, body.toList⟩ :: ⟨name, after⟩ :: outer) := by
  have stands := pending _ List.mem_cons_self
  rw [Token.tokens_of_some split] at stands
  intro frame member inner inside
  rcases List.mem_cons.1 member with rfl | member
  · exact (pending.occurs split).inside found inside
  rcases List.mem_cons.1 member with rfl | member
  · exact stands inner (List.mem_cons_of_mem _ inside)
  · exact pending frame (List.mem_cons_of_mem _ member) inner inside

end

/-- A run goes the same way in both modes, as far as no token bars it. -/
theorem run_abreast (frames : List Frame) (only : Output) : ∀ all, Lockstep only all →
    Pending library expression frames →
    Abreast library expression (run library true maxDepth frames only)
      (run library false maxDepth frames all) := by
  induction frames, only using run.induct library true maxDepth with
  | case1 only =>
    intro all lockstep _
    rw [run, run]
    exact .finished lockstep
  | case2 only name rest outer split emitted ih =>
    intro all lockstep pending
    rw [run_of_none split, run_of_none split]
    exact ih _ (lockstep.leave name rest) pending.leave
  | case3 only name rest outer before token after split openNames e refused =>
    intro all lockstep _
    rw [run_of_some split, run_of_some split, show openNamesOf _ = openNames from rfl, refused]
    exact .failed e
  | case4 only name rest outer before token after split openNames text found e refused =>
    intro all lockstep pending
    have step := lockstep.enter split (pending.occurs split)
    rw [run_of_some split, run_of_some split, show openNamesOf _ = openNames from rfl, found]
    simp only [refused] at step ⊢
    generalize (all.emit (.text before)).openToken token false = other at step ⊢
    cases step with
    | failed => exact .failed e
    | barred bars => exact .barred bars
  | case5 only name rest outer before token after split openNames text found entered opened ih =>
    intro all lockstep pending
    have step := lockstep.enter split (pending.occurs split)
    rw [run_of_some split, run_of_some split, show openNamesOf _ = openNames from rfl, found]
    simp only [opened] at step ⊢
    generalize (all.emit (.text before)).openToken token false = other at step ⊢
    cases step with
    | barred bars => exact .barred bars
    | finished entered' => exact ih _ entered' (pending.enter split (lookup?_of_body found))

/-! ### Results -/

section

variable {expansion : Expansion} {namedOnly : Bool} {opened : Token × Option String}

theorem mem_named : opened ∈ expansion.named ↔
    opened ∈ expansion.openings ∧ opened.1.field.isSome = true :=
  List.mem_filter

theorem map_named (expansion : Expansion) :
    expansion.named.map (·.1) = expansion.tokens.filter (·.field.isSome) := by
  rw [named, tokens, List.filter_map]
  rfl

/-- The group of a token that names a field tells of this field. -/
theorem Records.told {openings : List (Token × Option String)} {captures : TreeMap String String}
    (records : Records namedOnly openings captures) (member : opened ∈ openings) {field : String}
    (names : opened.1.field = some field) :
    ∃ group, opened.2 = some group ∧ captures[group]? = some field := by
  obtain ⟨token, group⟩ := opened
  have captured : token.fieldName? namedOnly = some field := by
    simp_all [Token.fieldName?]
  cases group with
  | none => cases ((records.named token none member).1 rfl).symm.trans captured
  | some group => exact ⟨group, rfl, (records.fields group field).2 ⟨token, member, captured⟩⟩

/-- Where tokens without field capture nothing, the groups in the table are those opened for tokens
    that name a field, each once. -/
theorem Records.perm_named (records : Records true expansion.openings expansion.captures) :
    (expansion.named.map (·.2)).Perm (expansion.captures.keys.map some) := by
  have told : ∀ opened ∈ expansion.named, ∃ group, opened.2 = some group ∧
      group ∈ expansion.captures := by
    intro opened member
    obtain ⟨member, names⟩ := mem_named.1 member
    obtain ⟨field, names⟩ := Option.isSome_iff_exists.1 names
    obtain ⟨group, own, entry⟩ := records.told member names
    exact ⟨group, own, TreeMap.mem_iff_isSome_getElem?.2 (by simp [entry])⟩
  have groups : expansion.named.map (·.2) = (expansion.named.filterMap (·.2)).map some := by
    rw [List.map_filterMap]
    refine (List.filterMap_eq_map_iff_forall_eq_some.2 fun opened member => ?_).symm
    obtain ⟨group, own, -⟩ := told opened member
    simp [own]
  rw [groups]
  refine List.Perm.map some ((List.perm_ext_iff_of_nodup ?_ TreeMap.nodup_keys).2 fun group => ?_)
  · exact (List.filter_sublist.filterMap _).nodup records.distinct
  · rw [List.mem_filterMap, TreeMap.mem_keys]
    constructor
    · rintro ⟨opened, member, own⟩
      obtain ⟨group', own', known⟩ := told opened member
      cases own.symm.trans own'
      exact known
    · intro known
      obtain ⟨field, entry⟩ := Option.isSome_iff_exists.1 (TreeMap.mem_iff_isSome_getElem?.1 known)
      obtain ⟨token, member, captured⟩ := (records.fields group field).1 entry
      rw [Token.fieldName?_true] at captured
      exact ⟨_, mem_named.2 ⟨member, by simp [captured]⟩, rfl⟩

end

/-- Finished runs in lockstep give twins. -/
theorem Lockstep.twins (lockstep : Lockstep only all)
    (onlyRecords : Records true (ofOutput only).openings (ofOutput only).captures)
    (allRecords : Records false (ofOutput all).openings (ofOutput all).captures) :
    Twins (ofOutput only) (ofOutput all) := by
  have pieces : (ofOutput only).pieces.map Piece.anonymous =
      (ofOutput all).pieces.map Piece.anonymous := by
    simpa [ofOutput] using lockstep.pieces
  have tokens : (ofOutput only).tokens = (ofOutput all).tokens := tokens_eq_of_anonymous pieces
  have same : (ofOutput only).named.map (·.1) = (ofOutput all).named.map (·.1) := by
    rw [map_named, map_named, tokens]
  refine ⟨fun marker => ?_, tokens, by simpa using congrArg List.length same, ?_,
    onlyRecords.perm_named⟩
  · exact congrArg String.ofList (marked_eq_of_anonymous pieces marker)
  · intro k opened opened' found found'
    have token : opened.1 = opened'.1 := by
      have kth := congrArg (·[k]?) same
      simpa [found, found'] using kth
    obtain ⟨member, names⟩ := mem_named.1 (List.mem_of_getElem? found)
    obtain ⟨member', -⟩ := mem_named.1 (List.mem_of_getElem? found')
    obtain ⟨field, names⟩ := Option.isSome_iff_exists.1 names
    obtain ⟨group, own, entry⟩ := onlyRecords.told member names
    obtain ⟨group', own', entry'⟩ := allRecords.told member' (token ▸ names)
    refine ⟨token, group, group', field, own, own', names, entry, entry', ?_⟩
    rw [hintOf?, hintOf?, entry, entry']
    exact congrArg (·[field]?) lockstep.fieldHints

/-- Expansion in the two modes. Where it succeeds with all tokens capturing, it succeeds with only
    those that name a field: but for the heads of groups the regular expressions are the same, and
    so are, in order, the tokens with a field, their fields and their hints. Where it fails with
    only those capturing, it fails with all, and with the same error, unless a token without field
    is met before that no group name can carry. -/
theorem expand_lockstep [Regex.Engine] (library : Library) (expression : String) (maxDepth : Nat) :
    (∀ all, library.expand expression false maxDepth = .ok all →
      ∃ only, library.expand expression true maxDepth = .ok only ∧ Twins only all) ∧
    ∀ e, library.expand expression true maxDepth = .error e →
      ∃ e', library.expand expression false maxDepth = .error e' ∧
        (e' = e ∨ ∃ token, Bars library expression token ∧
          e' = .reservedFieldName token.pattern) := by
  have start : Lockstep {} {} := ⟨rfl, rfl⟩
  have abreast : Abreast library expression
      (run library true maxDepth [⟨none, expression.toList⟩] {})
      (run library false maxDepth [⟨none, expression.toList⟩] {}) :=
    run_abreast _ _ _ start pending_start
  have onlyRecords := @records_of_expand library expression true maxDepth
  have allRecords := @records_of_expand library expression false maxDepth
  simp only [Library.expand_eq_run] at onlyRecords allRecords ⊢
  generalize run library true maxDepth [⟨none, expression.toList⟩] {} = outcome at *
  generalize run library false maxDepth [⟨none, expression.toList⟩] {} = outcome' at *
  cases abreast with
  | finished lockstep =>
    refine ⟨?_, ?_⟩
    · rintro _ ⟨⟩
      exact ⟨_, rfl, lockstep.twins (onlyRecords rfl) (allRecords rfl)⟩
    · rintro e ⟨⟩
  | failed e =>
    refine ⟨?_, ?_⟩
    · rintro _ ⟨⟩
    · rintro _ ⟨⟩
      exact ⟨e, rfl, .inl rfl⟩
  | barred bars =>
    refine ⟨?_, ?_⟩
    · rintro _ ⟨⟩
    · intro e _
      exact ⟨_, rfl, .inr ⟨_, bars, rfl⟩⟩

end LogSift.Expansion
