import LogSift.Proofs.Nested
import LogSift.Proofs.References

/-!
What expansion asks of an expression and of the definitions that it reaches (`Expandable`), and
what its errors say about them (`Witness`).
-/

namespace LogSift

/-- The tokens of characters in order. -/
def Token.tokens (cs : List Char) : List Token := (Token.splits cs).map (·.token)

theorem Token.tokens_of_none {cs : List Char} (split : Token.first? cs = none) :
    Token.tokens cs = [] := by
  rw [Token.tokens, Token.splits]
  grind

theorem Token.tokens_of_some {cs before after : List Char} {token : Token}
    (split : Token.first? cs = some ⟨before, token, after⟩) :
    Token.tokens cs = token :: Token.tokens after := by
  rw [Token.tokens, Token.splits]
  grind [Token.tokens]

namespace Expansion

open Relation

/-- A token that captures a field whose name a group name cannot carry. -/
def Reserves (namedOnly : Bool) (token : Token) (field : String) : Prop :=
  token.fieldName? namedOnly = some field ∧ FieldName.isReserved field = true

/-- A token that stands in an expression, or in a body that references lead to. -/
def Occurs (library : Library) (expression : String) (token : Token) : Prop :=
  token ∈ Token.all expression ∨
    ∃ name body, library.Reach (Token.patterns expression) name ∧
      library.lookup? name = some body ∧ token ∈ Token.all body

/-- What expansion asks: the names that are reached have definitions, none of them leads back to
    itself, references are nested no deeper than the limit, and group names can carry all fields. -/
structure Expandable (library : Library) (expression : String) (namedOnly : Bool)
    (maxDepth : Nat) : Prop where
  defined : ∀ name, library.Reach (Token.patterns expression) name → library.contains name = true
  acyclic : ∀ name, library.Reach (Token.patterns expression) name →
    ¬ TransGen library.Refers name name
  shallow : ∀ names, library.Chain (Token.patterns expression) names → names.length ≤ maxDepth
  encodable : ∀ token, Occurs library expression token → ∀ field, ¬ Reserves namedOnly token field

/-- What an error of expansion says. -/
def Witness (library : Library) (expression : String) (namedOnly : Bool) (maxDepth : Nat) :
    Error → Prop
  | .unknownPattern name =>
    library.Reach (Token.patterns expression) name ∧ library.lookup? name = none
  | .cyclicPattern path => library.Circle (Token.patterns expression) path
  | .depthExceeded limit => limit = maxDepth ∧
      ∃ names, library.Chain (Token.patterns expression) names ∧ maxDepth < names.length
  | .reservedFieldName field =>
    ∃ token, Occurs library expression token ∧ Reserves namedOnly token field
  | _ => False

theorem Naming.enter_error {naming : Naming} {token : Token} {namedOnly : Bool} {e : Error}
    (entered : naming.enter token namedOnly = .error e) :
    ∃ field, Reserves namedOnly token field ∧ e = .reservedFieldName field := by
  unfold Naming.enter at entered
  split at entered
  · cases entered
  · next field captures =>
    split at entered
    · next reserved =>
      cases entered
      exact ⟨field, ⟨captures, reserved⟩, rfl⟩
    · cases entered

theorem Naming.enter_ok {naming : Naming} {token : Token} {namedOnly : Bool}
    {entry : Option String × Naming} (entered : naming.enter token namedOnly = .ok entry)
    (field : String) : ¬ Reserves namedOnly token field := by
  rintro ⟨captures, reserved⟩
  simp [Naming.enter, captures, reserved] at entered

/-- What a token does where it is entered: nothing is named, or its field under a fresh group
    name, with the type it declares for the field, if any. -/
theorem Naming.enter_cases {naming entry : Naming} {token : Token} {namedOnly : Bool}
    {group : Option String} (entered : naming.enter token namedOnly = .ok (group, entry)) :
    (token.fieldName? namedOnly = none ∧ group = none ∧ entry = naming) ∨
    ∃ field, token.fieldName? namedOnly = some field ∧ FieldName.isReserved field = false ∧
      group = some (freshGroup (namesOf naming.captures) (FieldName.encode field)) ∧
      entry.captures =
        naming.captures.insert (freshGroup (namesOf naming.captures) (FieldName.encode field))
          field ∧
      entry.fieldHints = match token.type with
        | none => naming.fieldHints
        | some type => naming.fieldHints.insert field (.ofWord type) := by
  unfold Naming.enter at entered
  split at entered
  · next captures =>
    cases entered
    exact .inl ⟨captures, rfl, rfl⟩
  · next field captures =>
    split at entered
    · cases entered
    · next reserved =>
      cases entered
      exact .inr ⟨field, captures, Bool.eq_false_iff.2 reserved, rfl, rfl, rfl⟩

/-- A text is expanded while names are open, after what some tokens have named. -/
def Expands (library : Library) (namedOnly : Bool) (maxDepth : Nat) (openNames : List String)
    (text : List Char) : Prop :=
  ∃ naming result, nested library namedOnly maxDepth openNames naming text = .ok result

/-- What is found of a token where a text is expanded. -/
structure Passes (library : Library) (namedOnly : Bool) (maxDepth : Nat)
    (openNames : List String) (token : Token) : Prop where
  fresh : token.pattern ∉ openNames
  shallow : openNames.length < maxDepth
  encodable : ∀ field, ¬ Reserves namedOnly token field
  body : ∃ body, library.lookup? token.pattern = some body ∧
    Expands library namedOnly maxDepth (openNames ++ [token.pattern]) body.toList

variable {library : Library} {expression : String} {namedOnly : Bool} {maxDepth : Nat}
  {openNames : List String} {text : List Char}

/-- Where a text is expanded, all its tokens pass. -/
theorem Nests.passes {naming final : Naming} {expanded : List Char}
    (nests : Nests library namedOnly maxDepth openNames naming text expanded final) :
    ∀ token ∈ Token.tokens text, Passes library namedOnly maxDepth openNames token := by
  -- Only the text after a token is followed here; what its body needs is kept in `Passes.body`.
  induction nests with
  | plain split => simp [Token.tokens_of_none split]
  | token split fresh shallow found entered inside _ _ ihBehind =>
    rw [Token.tokens_of_some split, List.forall_mem_cons]
    exact ⟨⟨fresh, shallow, Naming.enter_ok entered, _, found, _, _, nested_eq_ok_iff.2 inside⟩,
      ihBehind⟩

theorem Expands.passes (expands : Expands library namedOnly maxDepth openNames text) :
    ∀ token ∈ Token.tokens text, Passes library namedOnly maxDepth openNames token := by
  obtain ⟨naming, ⟨expanded, final⟩, result⟩ := expands
  exact (nested_eq_ok_iff.1 result).passes

/-- An expanded text refers to clean names. -/
theorem Expands.clean {openNames : List String} {text : List Char}
    (expands : Expands library namedOnly maxDepth openNames text) :
    ∀ token ∈ Token.tokens text, library.Clean openNames token.pattern := by
  intro token member
  obtain ⟨fresh, shallow, _, body, found, inside⟩ := expands.passes token member
  refine .intro fresh found fun next nextMember => ?_
  obtain ⟨inner, innerMember, rfl⟩ := List.mem_map.1 nextMember
  exact inside.clean inner innerMember
termination_by maxDepth - openNames.length
decreasing_by
  rw [List.length_append, List.length_singleton]
  omega

/-- The body of every name that an expanded text leads to is expanded. -/
theorem Expands.reach {root name body : String}
    (expands : Expands library namedOnly maxDepth openNames text)
    (member : root ∈ (Token.tokens text).map (·.pattern))
    (path : ReflTransGen library.Refers root name) (found : library.lookup? name = some body) :
    ∃ inner, Expands library namedOnly maxDepth inner body.toList := by
  induction path using ReflTransGen.head_induction_on generalizing openNames text with
  | refl =>
    obtain ⟨token, stands, rfl⟩ := List.mem_map.1 member
    obtain ⟨body', found', inside⟩ := (expands.passes token stands).body
    obtain rfl : body' = body := Option.some.inj (found'.symm.trans found)
    exact ⟨_, inside⟩
  | head refers _ ih =>
    obtain ⟨token, stands, rfl⟩ := List.mem_map.1 member
    obtain ⟨middle, found, next⟩ := refers
    obtain ⟨middle', found', inside⟩ := (expands.passes token stands).body
    obtain rfl : middle' = middle := Option.some.inj (found'.symm.trans found)
    exact ih inside next

/-- Where a text is expanded, references are nested within the limit. -/
theorem Expands.length_le {names : List String}
    (expands : Expands library namedOnly maxDepth openNames text)
    (chain : library.Chain ((Token.tokens text).map (·.pattern)) names) (some : names ≠ []) :
    openNames.length + names.length ≤ maxDepth := by
  induction names generalizing openNames text with
  | nil => exact absurd rfl some
  | cons name rest ih =>
    obtain ⟨token, member, rfl⟩ := List.mem_map.1 (chain.start name rfl)
    obtain ⟨_, shallow, _, body, found, inside⟩ := expands.passes token member
    rcases rest with _ | ⟨next, rest⟩
    · exact shallow
    · obtain ⟨⟨body', found', nextMember⟩, links⟩ := List.isChain_cons_cons.1 chain.links
      obtain rfl : body = body' := Option.some.inj (found.symm.trans found')
      have deeper := ih inside ⟨fun first same => ?_, links⟩ (by simp)
      · simp only [List.length_append, List.length_cons, List.length_nil] at deeper ⊢
        omega
      · obtain rfl : next = first := by simpa using same
        exact nextMember

/-- Why the expansion of a text fails: a fault in the references, nesting beyond the limit, or a
    field that no group name can carry. -/
inductive Failure (library : Library) (expression : String) (namedOnly : Bool) (maxDepth : Nat)
    (openNames names : List String) : Error → Prop where
  | fault {e : Error} (fault : library.Fault openNames names e) :
      Failure library expression namedOnly maxDepth openNames names e
  | deep {outer : List String} {name : String}
      (chain : library.Chain (Token.patterns expression) (outer ++ [name]))
      (distinct : outer.Nodup) (exceeds : maxDepth ≤ outer.length) :
      Failure library expression namedOnly maxDepth openNames names (.depthExceeded maxDepth)
  | reserved {token : Token} {field : String} (occurs : Occurs library expression token)
      (reserves : Reserves namedOnly token field) :
      Failure library expression namedOnly maxDepth openNames names (.reservedFieldName field)

/-- A failure in the body of a name, or after the name, is one of the text that refers to it. -/
theorem Failure.outward {names inner rest : List String} {e : Error}
    (failure : Failure library expression namedOnly maxDepth names inner e)
    (fault : library.Fault names inner e → library.Fault openNames rest e) :
    Failure library expression namedOnly maxDepth openNames rest e := by
  cases failure with
  | fault inside => exact .fault (fault inside)
  | deep chain distinct exceeds => exact .deep chain distinct exceeds
  | reserved occurs reserves => exact .reserved occurs reserves

/-- Where the recursion fails, it is for one of these reasons. -/
theorem nested_error {naming : Naming} {e : Error}
    (failed : nested library namedOnly maxDepth openNames naming text = .error e)
    (chains : ∀ token ∈ Token.tokens text,
      library.Chain (Token.patterns expression) (openNames ++ [token.pattern]))
    (occurs : ∀ token ∈ Token.tokens text, Occurs library expression token)
    (distinct : openNames.Nodup) :
    Failure library expression namedOnly maxDepth openNames
      ((Token.tokens text).map (·.pattern)) e := by
  induction openNames, naming, text using nested.induct library maxDepth with
  | case1 openNames naming text split =>
    rw [nested_of_none split] at failed
    cases failed
  | case2 openNames naming text before token after split isOpen =>
    rw [nested_of_some split, if_pos isOpen] at failed
    cases failed
    rw [Token.tokens_of_some split]
    exact .fault (.circle isOpen)
  | case3 openNames naming text before token after split fresh deep =>
    rw [nested_of_some split, if_neg fresh, if_pos deep] at failed
    cases failed
    rw [Token.tokens_of_some split] at chains
    exact .deep (chains token List.mem_cons_self) distinct deep
  | case4 openNames naming text before token after split fresh shallow unknown =>
    rw [nested_of_some split, if_neg fresh, if_neg shallow, unknown] at failed
    cases failed
    rw [Token.tokens_of_some split]
    exact .fault (.unknown fresh unknown)
  | case5 openNames naming text before token after split fresh shallow body found ihBody ihAfter =>
    rw [nested_of_some split, if_neg fresh, if_neg shallow, found] at failed
    rw [Token.tokens_of_some split] at chains occurs ⊢
    obtain ⟨chain, chains⟩ := List.forall_mem_cons.1 chains
    obtain ⟨here, occurs⟩ := List.forall_mem_cons.1 occurs
    rcases bind_eq_error failed with entered | ⟨pair, entered, failed⟩
    · obtain ⟨field, reserves, rfl⟩ := Naming.enter_error entered
      exact .reserved here reserves
    rcases bind_eq_error failed with failedBody | ⟨inner, expandedBody, failed⟩
    · refine (ihBody _ failedBody (fun next member => ?_) (fun next member => ?_) ?_).outward
        (.inside fresh found)
      · exact chain.snoc ⟨body, found, List.mem_map_of_mem member⟩
      · exact .inr ⟨_, body, chain.reach, found, member⟩
      · rw [← List.concat_eq_append]
        exact distinct.concat fresh
    rcases bind_eq_error failed with failedAfter | ⟨later, _, finished⟩
    · have inside : Expands library namedOnly maxDepth (openNames ++ [token.pattern]) body.toList :=
        ⟨_, _, expandedBody⟩
      have clean : library.Clean openNames token.pattern := by
        refine .intro fresh found fun next member => ?_
        obtain ⟨inner, stands, rfl⟩ := List.mem_map.1 member
        exact inside.clean inner stands
      exact (ihAfter _ failedAfter chains occurs distinct).outward (.later clean)
    · cases finished

/-! ### What expansion asks and what its errors say -/

/-- Every expression is expanded, or fails for a reason. -/
theorem expand_cases [Regex.Engine] (library : Library) (expression : String) (namedOnly : Bool)
    (maxDepth : Nat) :
    (∃ result, library.expand expression namedOnly maxDepth = .ok result ∧
      Expands library namedOnly maxDepth [] expression.toList) ∨
    ∃ e, library.expand expression namedOnly maxDepth = .error e ∧
      Failure library expression namedOnly maxDepth [] (Token.patterns expression) e := by
  have whole := expand_nested library expression namedOnly maxDepth
  cases result : nested library namedOnly maxDepth [] {} expression.toList with
  | error e =>
    rw [result] at whole
    have chains : ∀ token ∈ Token.tokens expression.toList,
        library.Chain (Token.patterns expression) ([] ++ [token.pattern]) :=
      fun token member => .root (List.mem_map_of_mem member)
    exact .inr ⟨e, whole, nested_error result chains (fun _ => .inl) List.nodup_nil⟩
  | ok pair =>
    rw [result] at whole
    obtain ⟨expansion, expanded, _⟩ := whole
    exact .inl ⟨expansion, expanded, _, _, result⟩

/-- Expansion succeeds only where all that it asks holds. -/
theorem Expands.expandable (expands : Expands library namedOnly maxDepth [] expression.toList) :
    Expandable library expression namedOnly maxDepth := by
  have sound : ∀ name, library.Reach (Token.patterns expression) name →
      library.contains name = true ∧ ¬ TransGen library.Refers name name := by
    rintro name ⟨root, member, path⟩
    obtain ⟨token, stands, rfl⟩ := List.mem_map.1 member
    exact (expands.clean token stands).sound name path
  refine ⟨fun name reach => (sound name reach).1, fun name reach => (sound name reach).2,
    fun names chain => ?_, fun token occurs => ?_⟩
  · by_cases empty : names = []
    · simp [empty]
    · simpa using expands.length_le chain empty
  · rcases occurs with stands | ⟨name, body, ⟨root, member, path⟩, found, stands⟩
    · exact (expands.passes token stands).encodable
    · obtain ⟨inner, inside⟩ := expands.reach member path found
      exact (inside.passes token stands).encodable

/-- A failure shows in the error. -/
theorem Failure.witness {e : Error} (failure : Failure library expression namedOnly maxDepth []
    (Token.patterns expression) e) : Witness library expression namedOnly maxDepth e := by
  cases failure with
  | fault fault =>
    rcases fault.of_roots with ⟨name, rfl, reach, unknown⟩ | ⟨path, rfl, circle⟩
    · exact ⟨reach, unknown⟩
    · exact circle
  | deep chain _ exceeds =>
    refine ⟨rfl, _, chain, ?_⟩
    rw [List.length_append, List.length_singleton]
    omega
  | reserved occurs reserves => exact ⟨_, occurs, reserves⟩

/-- No error has a witness where all that expansion asks holds. -/
theorem Expandable.not_witness (expandable : Expandable library expression namedOnly maxDepth)
    (e : Error) : ¬ Witness library expression namedOnly maxDepth e := by
  intro witness
  cases e with
  | unknownPattern name =>
    obtain ⟨reach, unknown⟩ := witness
    simpa [Library.contains, unknown] using expandable.defined name reach
  | cyclicPattern path =>
    obtain ⟨name, reach, cyclic⟩ := witness.cyclic
    exact expandable.acyclic name reach cyclic
  | depthExceeded limit =>
    obtain ⟨_, names, chain, exceeds⟩ := witness
    exact absurd (expandable.shallow names chain) (by omega)
  | reservedFieldName field =>
    obtain ⟨token, occurs, reserves⟩ := witness
    exact expandable.encodable token occurs field reserves
  | _ => exact witness

/-- A limit that a body has been found under can be raised. -/
theorem body_of_le {depth larger : Nat} {token : Token} {text : String}
    (found : body library maxDepth openNames depth token = .ok text) (le : maxDepth ≤ larger) :
    body library larger openNames depth token = .ok text := by
  have shallow := lt_of_body found
  unfold body at found ⊢
  by_cases isOpen : openNames.contains token.pattern = true
  · rw [if_pos isOpen] at found
    cases found
  · rw [if_neg isOpen, if_neg (by omega)] at found ⊢
    exact found

/-- A limit that a run has kept to can be raised. -/
theorem Runs.of_le {larger : Nat} {frames : List Frame} {out finished : Output}
    (runs : Runs library namedOnly maxDepth frames out finished) (le : maxDepth ≤ larger) :
    Runs library namedOnly larger frames out finished := by
  induction runs with
  | done => exact .done
  | leave split _ onward => exact .leave split onward
  | enter split found opened _ onward => exact .enter split (body_of_le found le) opened onward

theorem run_of_le {larger : Nat} {frames : List Frame} {out finished : Output}
    (ran : run library namedOnly maxDepth frames out = .ok finished) (le : maxDepth ≤ larger) :
    run library namedOnly larger frames out = .ok finished :=
  run_eq_ok_iff.2 ((run_eq_ok_iff.1 ran).of_le le)

/-- Expansion succeeds where all that it asks for holds, and then under any larger limit with
    the same result; where it fails, its error is a witness. -/
theorem expand_correct [Regex.Engine] (library : Library) (expression : String) (namedOnly : Bool)
    (maxDepth : Nat) :
    ((∃ result, library.expand expression namedOnly maxDepth = .ok result) ↔
      Expandable library expression namedOnly maxDepth) ∧
    (∀ result, library.expand expression namedOnly maxDepth = .ok result →
      ∀ larger, maxDepth ≤ larger → library.expand expression namedOnly larger = .ok result) ∧
    ∀ e, library.expand expression namedOnly maxDepth = .error e →
      Witness library expression namedOnly maxDepth e := by
  rcases expand_cases library expression namedOnly maxDepth with
    ⟨result, expanded, expands⟩ | ⟨e, failed, failure⟩
  · refine ⟨⟨fun _ => expands.expandable, fun _ => ⟨result, expanded⟩⟩, ?_, ?_⟩
    · intro result' expanded larger le
      rw [Library.expand_eq_run] at expanded ⊢
      cases ran : run library namedOnly maxDepth [⟨none, expression.toList⟩] {} with
      | error e => rw [ran] at expanded; cases expanded
      | ok finished => rw [run_of_le ran le, ← ran, expanded]
    · intro e failed
      rw [expanded] at failed
      cases failed
  · refine ⟨⟨?_, ?_⟩, ?_, ?_⟩
    · rintro ⟨result, expanded⟩
      rw [failed] at expanded
      cases expanded
    · intro expandable
      exact absurd failure.witness (expandable.not_witness e)
    · intro result expanded
      rw [failed] at expanded
      cases expanded
    · intro e' failed'
      rw [failed] at failed'
      cases failed'
      exact failure.witness

end Expansion

end LogSift
