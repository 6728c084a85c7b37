import LogSift.Proofs.Validation
import LogSift.Regex.Footprint

/-!
The user's definitions over the built-in ones. The base table can be put in an order in which every
body refers to earlier names only; whatever names the user covers, a library is sound if the
user's definitions are.
-/

namespace LogSift

namespace Builtin

/-- A table in which every body refers to known names, or to names before it. -/
inductive Ordered : List String → Table → Prop where
  | nil {known : List String} : Ordered known []
  | cons {known : List String} {name body : String} {rest : Table}
      (refers : ∀ next ∈ Token.patterns body, next ∈ known) (ordered : Ordered (name :: known) rest) :
      Ordered known ((name, body) :: rest)

/-- The characters of a body refer to known names. -/
def refersTo (known : List String) (cs : List Char) : Bool :=
  (Token.tokens cs).all fun token => known.contains token.pattern

/-- One more entry, whose body is given by its characters. -/
theorem Ordered.entry {known : List String} {name : String} {cs : List Char} {rest : Table}
    (refers : refersTo known cs = true) (ordered : Ordered (name :: known) rest) :
    Ordered known ((name, .ofList cs) :: rest) := by
  refine .cons (fun next member => ?_) ordered
  obtain ⟨token, stands, rfl⟩ := List.mem_map.1 member
  change token ∈ Token.tokens (String.ofList cs).toList at stands
  rw [String.toList_ofList] at stands
  simpa using List.all_eq_true.1 refers token stands

/-- The base table in an order in which no name is used before its definition. -/
def ordered : Table := numbers ++ addresses ++ words ++ paths ++ dates ++ syslogParts ++ levels

theorem mem_ordered {entry : String × String} : entry ∈ ordered ↔ entry ∈ base := by
  simp only [ordered, base, List.mem_append]
  tauto

set_option maxRecDepth 10000 in
theorem ordered_ordered : Ordered [] ordered := by
  unfold ordered numbers addresses words paths dates syslogParts levels
  -- One entry at a time: decided as a whole, the table is too large.
  repeat' refine .entry (by decide +kernel) ?_
  exact .nil

end Builtin

namespace Library

open Relation

variable {library : Library} {name other : String}

/-- A name is sound if its body refers to sound names. -/
theorem Sound.of_body {body : String} (found : library.lookup? name = some body)
    (inside : ∀ next ∈ Token.patterns body, library.Sound next) : library.Sound name := by
  have next : ∀ next, library.Refers name next → library.Sound next := by
    rintro next ⟨body', found', member⟩
    obtain rfl : body = body' := Option.some.inj (found.symm.trans found')
    exact inside next member
  intro other path
  rcases path.cases_head with rfl | ⟨first, refers, rest⟩
  · refine ⟨contains_of_lookup? found, fun cyclic => ?_⟩
    obtain ⟨first, refers, rest⟩ := TransGen.head'_iff.1 cyclic
    exact (next first refers name rest).2 cyclic
  · exact next first refers other rest

/-- Every entry of an ordered table is sound that the library answers with, or that has a sound
    definition in its place. -/
theorem sound_of_ordered {known : List String} {table : Builtin.Table}
    (ordered : Builtin.Ordered known table) (sound : ∀ name ∈ known, library.Sound name)
    (entries : ∀ name body, (name, body) ∈ table →
      library.lookup? name = some body ∨ library.Sound name) :
    ∀ entry ∈ table, library.Sound entry.1 := by
  induction ordered with
  | nil => simp
  | @cons known name body rest refers _ ih =>
    have head : library.Sound name := by
      rcases entries name body List.mem_cons_self with found | sound
      · exact .of_body found fun next member => sound next (refers next member)
      · exact sound
    have tail := ih (List.forall_mem_cons.2 ⟨head, sound⟩) fun name body member =>
      entries name body (.tail _ member)
    exact List.forall_mem_cons.2 ⟨head, tail⟩

theorem mem_names : name ∈ library.names ↔ ∃ body, library.own[name]? = some body := by
  rw [names, Std.TreeMap.mem_keys, Std.TreeMap.mem_iff_isSome_getElem?, Option.isSome_iff_exists]

/-- A name of the base table is the user's, or has the body of the table. -/
theorem lookup?_of_mem_base {body : String} (builtin : library.builtin = true)
    (member : (name, body) ∈ Builtin.base) :
    name ∈ library.names ∨ library.lookup? name = some body := by
  cases found : library.own[name]? with
  | some _ => exact .inl (mem_names.2 ⟨_, found⟩)
  | none =>
    refine .inr ?_
    unfold lookup?
    rw [found, if_pos builtin]
    exact Builtin.Table.body?_of_mem Builtin.nodup_base member

/-- If the user's definitions are sound, all are. -/
theorem sound_of_names (own : ∀ name ∈ library.names, library.Sound name)
    (defined : library.contains name = true) : library.Sound name := by
  rcases List.mem_append.1 (mem_resolvable.2 defined) with named | covered
  · exact own name named
  · split at covered
    · next builtin =>
      obtain ⟨entry, member, rfl⟩ := List.mem_map.1 (List.mem_filter.1 covered).1
      refine sound_of_ordered Builtin.ordered_ordered (by simp) (fun name body member => ?_) entry
        (Builtin.mem_ordered.2 member)
      rcases lookup?_of_mem_base builtin (Builtin.mem_ordered.1 member) with named | found
      · exact .inr (own name named)
      · exact .inl found
    · cases covered

open Expansion (expand_cases)

/-- After validation, an expression that refers to defined names only can be expanded, unless a
    field in it is reserved, where the limit is beyond all definitions. -/
theorem expand_of_valid [Regex.Engine] (library : Library) (expression : String) (namedOnly : Bool)
    (maxDepth : Nat) (valid : library.validate = .ok ())
    (defined : ∀ token ∈ Token.all expression, library.contains token.pattern = true)
    (deep : library.resolvable.length < maxDepth) :
    (∃ result, library.expand expression namedOnly maxDepth = .ok result) ∨
    ∃ field, library.expand expression namedOnly maxDepth = .error (.reservedFieldName field) := by
  have own : ∀ name ∈ library.names, library.Sound name := by
    rcases library.validate_cases with ⟨e, _, failed⟩ | ⟨clean, _⟩
    · rw [failed] at valid
      cases valid
    · exact fun name member => (clean name member).sound
  have sound : ∀ name, library.Reach (Token.patterns expression) name →
      library.contains name = true ∧ ¬ TransGen library.Refers name name := by
    rintro name ⟨root, member, path⟩
    obtain ⟨token, stands, rfl⟩ := List.mem_map.1 member
    exact sound_of_names own (defined token stands) name path
  rcases expand_cases library expression namedOnly maxDepth with
    ⟨result, expanded, _⟩ | ⟨e, failed, failure⟩
  · exact .inl ⟨result, expanded⟩
  cases failure with
  | fault fault =>
    rcases fault.of_roots with ⟨name, rfl, reach, unknown⟩ | ⟨path, rfl, circle⟩
    · simpa [contains, unknown] using (sound name reach).1
    · obtain ⟨name, reach, cyclic⟩ := circle.cyclic
      exact absurd cyclic (sound name reach).2
  | deep chain distinct exceeds =>
    have short := chain.length_le distinct
    omega
  | reserved occurs reserves => exact .inr ⟨_, failed⟩

/-- The built-in definitions, with one of them covered by a definition of the user. -/
def renamed : Library := (withBuiltin true).insert "HOSTNAME" r"%{WORD}(?:\.%{WORD})*"

theorem clean_renamed : renamed.Clean [] "HOSTNAME" := by
  have hostname : renamed.lookup? "HOSTNAME" = some r"%{WORD}(?:\.%{WORD})*" := by decide +kernel
  have inside : Token.patterns r"%{WORD}(?:\.%{WORD})*" = ["WORD", "WORD"] := by decide +kernel
  have word : renamed.lookup? "WORD" = some r"\b\w+\b" := by decide +kernel
  have plain : Token.patterns r"\b\w+\b" = [] := by decide +kernel
  refine .intro (by simp) hostname fun next refers => ?_
  obtain rfl : next = "WORD" := by simpa [inside] using refers
  exact .intro (by decide) word (by simp [plain])

theorem expand_of_valid_renamed :
    (∃ result, renamed.expand "%{HOSTPORT:server.address} up %{NUMBER}s" true 100 = .ok result) ∨
    ∃ field, renamed.expand "%{HOSTPORT:server.address} up %{NUMBER}s" true 100 =
      .error (.reservedFieldName field) := by
  have names : renamed.names = ["HOSTNAME"] := by decide +kernel
  have valid : renamed.validate = .ok () := by
    rcases renamed.validate_cases with ⟨e, fault, _⟩ | ⟨_, valid⟩
    · rw [names] at fault
      exact absurd (List.forall_mem_singleton.2 clean_renamed) fault.not_clean
    · exact valid
  refine expand_of_valid renamed _ true 100 valid ?_ ?_
  · decide +kernel
  · decide +kernel
end Library

end LogSift
