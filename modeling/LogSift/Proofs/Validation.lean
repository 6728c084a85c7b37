import LogSift.Proofs.Expandable
import LogSift.Proofs.Grammar
import LogSift.Regex.Footprint

/-!
Validation keeps a record of the names that are done, and follows a reference once. It finds the
first fault that a search without a record finds (`validate_cases`), and so does expansion
(`expand_reference`).
-/

namespace LogSift

namespace Token

/-- The text of a token that has a name only. -/
def reference (name : String) : String := .ofList (chars ⟨name, none, none⟩)

/-- Is a text a single word, as the names in tokens are? -/
def IsName (name : String) : Prop :=
  name ≠ "" ∧ ∀ c ∈ name.toList, Unicode.isWord c = true

/-- A token is found where it is the whole of a text. -/
theorem first?_chars {token : Token} (wellFormed : token.WellFormed) :
    first? token.chars = some ⟨[], token, []⟩ := by
  have read : read? token.chars = some (token, []) :=
    read?_eq_some_iff.2 ⟨wellFormed, (List.append_nil _).symm⟩
  obtain ⟨rest, text⟩ : ∃ rest, token.chars = '%' :: rest := ⟨_, rfl⟩
  rw [text] at read ⊢
  rw [first?, read]

theorem first?_reference {name : String} (word : IsName name) :
    first? (reference name).toList = some ⟨[], ⟨name, none, none⟩, []⟩ := by
  rw [reference, String.toList_ofList]
  exact first?_chars ⟨word, by simp, by simp, by simp⟩

theorem all_reference {name : String} (word : IsName name) :
    all (reference name) = [⟨name, none, none⟩] := by
  have none : first? [] = none := rfl
  change tokens (reference name).toList = _
  rw [tokens_of_some (first?_reference word), tokens_of_none none]

end Token

namespace Library

open Std (TreeSet)

/-- Names that are done are clean, whatever names that are not done are open. -/
def Settled (library : Library) (done : TreeSet String) : Prop :=
  ∀ name, done.contains name = true → ∀ openNames : List String,
    (∀ other ∈ openNames, done.contains other = false) → library.Clean openNames name

/-- The open names while a name is visited inside other visits, outermost first. -/
def outermost (name : String) (outer : List Visit) : List String :=
  (name :: outer.map (·.name)).reverse

/-- A visit as a walk comes to it: what is done is settled, no open name is done or open twice,
    and what the body refers to is done or still to follow. -/
structure Standing (library : Library) (visit : Visit) (outer : List Visit)
    (done : TreeSet String) : Prop where
  settled : library.Settled done
  distinct : (outermost visit.name outer).Nodup
  apart : ∀ name ∈ outermost visit.name outer, done.contains name = false
  followed : ∃ body, library.lookup? visit.name = some body ∧
    ∀ next ∈ Token.patterns body, next ∈ visit.pending ∨ done.contains next = true

/-- What is done after a visit: more than before, the name visited, and none of those still open. -/
structure Extends (library : Library) (visit : Visit) (outer : List Visit)
    (done done' : TreeSet String) : Prop where
  settled : library.Settled done'
  grows : ∀ name, done.contains name = true → done'.contains name = true
  visited : done'.contains visit.name = true
  apart : ∀ other ∈ outer, done'.contains other.name = false

/-- How a walk goes on from a visit: with the first fault in what is still to follow, or with the
    visits around it. -/
def Leaves (library : Library) (visit : Visit) (outer : List Visit) (done : TreeSet String) :
    Prop :=
  (∃ e, library.Fault (outermost visit.name outer) visit.pending e ∧
    library.walk (visit :: outer) done = .error e) ∨
  ∃ done', library.Extends visit outer done done' ∧
    library.walk (visit :: outer) done = library.walk outer done'

variable {library : Library} {visit : Visit} {outer : List Visit} {done done' : TreeSet String}
  {name next : String} {pending : List String}

theorem mem_outermost {other : String} : other ∈ outermost name outer ↔
    other = name ∨ ∃ visit ∈ outer, visit.name = other := by
  simp [outermost, or_comm]

theorem outermost_cons : outermost next (visit :: outer) = outermost visit.name outer ++ [next] := by
  simp [outermost]

theorem settled_empty : library.Settled ∅ := by
  intro name member
  simp at member

/-- A name can be done once all that its body refers to is. -/
theorem Settled.insert {body : String} (settled : library.Settled done)
    (found : library.lookup? name = some body) (fresh : done.contains name = false)
    (followed : ∀ next ∈ Token.patterns body, done.contains next = true) :
    library.Settled (done.insert name) := by
  intro other member openNames apart
  have before : ∀ inner ∈ openNames, name ≠ inner ∧ done.contains inner = false := by
    intro inner isOpen
    simpa [Std.TreeSet.contains_insert] using apart inner isOpen
  rw [Std.TreeSet.contains_insert, Bool.or_eq_true, Std.compare_beq_iff_eq] at member
  rcases member with rfl | member
  · refine .intro (fun isOpen => (before _ isOpen).1 rfl) found fun next refers => ?_
    refine settled next (followed next refers) _ fun inner isOpen => ?_
    rcases List.mem_append.1 isOpen with isOpen | same
    · exact (before inner isOpen).2
    · obtain rfl := List.mem_singleton.1 same
      exact fresh
  · exact settled other member openNames fun inner isOpen => (before inner isOpen).2

/-- What a walk does at a reference. -/
theorem walk_next : library.walk (⟨name, next :: pending⟩ :: outer) done =
    if done.contains next then library.walk (⟨name, pending⟩ :: outer) done
    else if next ∈ name :: outer.map (·.name) then
      .error (.cyclicPattern (circle (name :: outer.map (·.name)) next))
    else
      match library.lookup? next with
      | none => .error (.unknownPattern next)
      | some body =>
        library.walk (⟨next, Token.references body⟩ :: ⟨name, pending⟩ :: outer) done := by
  rw [walk]
  by_cases isDone : done.contains next = true
  · rw [dif_pos isDone, if_pos isDone]
  by_cases isOpen : next ∈ name :: outer.map (·.name)
  · rw [dif_neg isDone, if_neg isDone, dif_pos (List.contains_iff_mem.2 isOpen), if_pos isOpen]
  · rw [dif_neg isDone, if_neg isDone, dif_neg (by simpa using isOpen), if_neg isOpen]
    cases answer : library.lookup? next <;> grind [references]

/-- A reference whose name is done is passed over. -/
theorem Standing.pass (standing : library.Standing ⟨name, next :: pending⟩ outer done)
    (settled : library.Settled done')
    (grows : ∀ other, done.contains other = true → done'.contains other = true)
    (visited : done'.contains next = true)
    (apart : ∀ other ∈ (⟨name, pending⟩ : Visit) :: outer, done'.contains other.name = false) :
    library.Standing ⟨name, pending⟩ outer done' := by
  obtain ⟨_, distinct, _, body, found, followed⟩ := standing
  refine ⟨settled, distinct, ?_, body, found, ?_⟩
  · intro other isOpen
    rcases mem_outermost.1 isOpen with rfl | ⟨inner, member, rfl⟩
    · exact apart _ List.mem_cons_self
    · exact apart inner (.tail _ member)
  · intro other refers
    rcases followed other refers with waits | isDone
    · rcases List.mem_cons.1 waits with rfl | waits
      · exact .inr visited
      · exact .inl waits
    · exact .inr (grows other isDone)

/-- A reference whose name is neither done nor open is a visit of its own. -/
theorem Standing.enter {body : String}
    (standing : library.Standing ⟨name, next :: pending⟩ outer done)
    (fresh : done.contains next = false) (closed : next ∉ outermost name outer)
    (answer : library.lookup? next = some body) :
    library.Standing ⟨next, Token.references body⟩ (⟨name, pending⟩ :: outer) done := by
  refine ⟨standing.settled, ?_, ?_, body, answer, fun other refers => .inl ?_⟩
  · rw [outermost_cons, ← List.concat_eq_append]
    exact List.Nodup.concat closed standing.distinct
  · intro other isOpen
    rw [outermost_cons, List.mem_append, List.mem_singleton] at isOpen
    rcases isOpen with isOpen | rfl
    · exact standing.apart other isOpen
    · exact fresh
  · exact List.mem_eraseDups.2 refers

/-- Behind a clean reference, a walk goes on as it does without the reference. -/
theorem Leaves.later (clean : library.Clean (outermost name outer) next)
    (grows : ∀ other, done.contains other = true → done'.contains other = true)
    (step : library.walk (⟨name, next :: pending⟩ :: outer) done =
      library.walk (⟨name, pending⟩ :: outer) done')
    (leaves : library.Leaves ⟨name, pending⟩ outer done') :
    library.Leaves ⟨name, next :: pending⟩ outer done := by
  rcases leaves with ⟨e, fault, failed⟩ | ⟨after, larger, left⟩
  · exact .inl ⟨e, .later clean fault, step.trans failed⟩
  · exact .inr ⟨after, ⟨larger.settled, fun other member => larger.grows _ (grows _ member),
      larger.visited, larger.apart⟩, step.trans left⟩

/-- A visit with nothing to follow is left, and its name is done. -/
theorem Standing.leave (standing : library.Standing ⟨name, []⟩ outer done) :
    library.Extends ⟨name, []⟩ outer done (done.insert name) := by
  obtain ⟨settled, distinct, apart, body, found, followed⟩ := standing
  -- Nothing waits any more, so all that the body refers to is done.
  have fresh : done.contains name = false := apart name (mem_outermost.2 (.inl rfl))
  refine ⟨settled.insert found fresh fun next refers => ?_, fun other member => ?_, ?_, ?_⟩
  · simpa using followed next refers
  · simp [Std.TreeSet.contains_insert, member]
  · simp
  · intro other member
    have differs : name ≠ other.name := by
      have absent := (List.nodup_cons.1 (List.nodup_reverse.1 distinct)).1
      rintro rfl
      exact absent (List.mem_map.2 ⟨other, member, rfl⟩)
    simpa [Std.TreeSet.contains_insert, differs] using
      apart other.name (mem_outermost.2 (.inr ⟨other, member, rfl⟩))

/-- What is left to visit gets no more as names get done. -/
theorem unvisited_length_le {openNames : List String}
    (grows : ∀ other, done.contains other = true → done'.contains other = true) :
    (library.unvisited openNames done').length ≤ (library.unvisited openNames done).length := by
  refine (List.monotone_filter_right _ fun other left => ?_).length_le
  cases member : done.contains other with
  | true => simp [grows other member] at left
  | false => simpa [member] using And.right (by simpa using left)

/-- A walk from a visit ends with the first fault in what the visit has still to follow, or
    leaves it. -/
theorem walk_visit {visit : Visit} {outer : List Visit} {done : TreeSet String}
    (standing : library.Standing visit outer done) : library.Leaves visit outer done := by
  match visit with
  | ⟨name, []⟩ => exact .inr ⟨done.insert name, standing.leave, by rw [walk]⟩
  | ⟨name, next :: pending⟩ =>
    by_cases isDone : done.contains next = true
    · have passed : library.Standing ⟨name, pending⟩ outer done :=
        standing.pass standing.settled (fun _ => id) isDone fun other member =>
          standing.apart other.name (List.mem_reverse.2 (List.mem_map.2 ⟨other, member, rfl⟩))
      exact .later (standing.settled next isDone _ standing.apart) (fun _ => id)
        (by rw [walk_next, if_pos isDone]) (walk_visit passed)
    by_cases isOpen : next ∈ name :: outer.map (·.name)
    · refine .inl ⟨_, .circle (List.mem_reverse.2 isOpen), ?_⟩
      have distinct : (name :: outer.map (·.name)).Nodup := List.nodup_reverse.1 standing.distinct
      rw [walk_next, if_neg isDone, if_pos isOpen, circle_eq distinct isOpen]
      rfl
    have closed : next ∉ outermost name outer := fun isOpen' =>
      isOpen (List.mem_reverse.1 isOpen')
    cases answer : library.lookup? next with
    | none =>
      refine .inl ⟨_, .unknown closed answer, ?_⟩
      rw [walk_next, if_neg isDone, if_neg isOpen, answer]
    | some body =>
      have step : library.walk (⟨name, next :: pending⟩ :: outer) done =
          library.walk (⟨next, Token.references body⟩ :: ⟨name, pending⟩ :: outer) done := by
        rw [walk_next, if_neg isDone, if_neg isOpen, answer]
      have entered := standing.enter (Bool.eq_false_iff.2 isDone) closed answer
      rcases walk_visit entered with ⟨e, fault, failed⟩ | ⟨done', larger, left⟩
      -- The body's references are followed once each; its first fault does not depend on that.
      · rw [outermost_cons] at fault
        exact .inl ⟨e, .inside closed answer fault.of_eraseDups, step.trans failed⟩
      · have passed := standing.pass larger.settled larger.grows larger.visited larger.apart
        exact .later (larger.settled next larger.visited _ passed.apart) larger.grows
          (step.trans left) (walk_visit passed)
termination_by ((library.unvisited ((visit :: outer).map (·.name)) done).length, load (visit :: outer))
decreasing_by
  -- A reference is passed over, a name is opened, and the visit goes on with more done.
  · exact Prod.Lex.right _ (by simp [load])
  · refine Prod.Lex.left _ _ (unvisited_open_lt (contains_of_lookup? answer)
      (Bool.eq_false_iff.2 isDone) ?_)
    simpa using isOpen
  · exact Prod.Lex.right' _ (unvisited_length_le larger.grows) (by simp [load])

/-- A visit of a root meets the first fault that a search from it meets, or it is done. -/
theorem visit_root (library : Library) (done : TreeSet String) (root : String)
    (settled : library.Settled done) :
    (∃ e, library.Fault [] [root] e ∧ library.visit done root = .error e) ∨
    ∃ done', library.Settled done' ∧ done'.contains root = true ∧
      (∀ name, done.contains name = true → done'.contains name = true) ∧
      library.visit done root = .ok done' := by
  unfold visit references
  by_cases isDone : done.contains root = true
  · exact .inr ⟨done, settled, isDone, fun _ => id, by rw [if_pos isDone]⟩
  · rw [if_neg isDone]
    cases answer : library.lookup? root with
    | none => exact .inl ⟨_, .unknown (by simp) answer, rfl⟩
    | some body =>
      have standing : library.Standing ⟨root, Token.references body⟩ [] done := by
        refine ⟨settled, List.nodup_singleton root, fun name isOpen => ?_, body, answer,
          fun next refers => .inl (List.mem_eraseDups.2 refers)⟩
        obtain rfl : name = root := by simpa [outermost] using isOpen
        exact Bool.eq_false_iff.2 isDone
      rcases walk_visit standing with ⟨e, fault, failed⟩ | ⟨done', larger, left⟩
      · exact .inl ⟨e, .inside (by simp) answer fault.of_eraseDups, failed⟩
      · rw [walk] at left
        exact .inr ⟨done', larger.settled, larger.visited, larger.grows, left⟩

/-- Visits of names in order meet the first fault that searches from them meet, or all are done. -/
theorem check_names (library : Library) (names : List String) (done : TreeSet String)
    (settled : library.Settled done) :
    (∃ e, library.Fault [] names e ∧ names.foldlM library.visit done = .error e) ∨
    ∃ done', library.Settled done' ∧ (∀ name ∈ names, done'.contains name = true) ∧
      (∀ name, done.contains name = true → done'.contains name = true) ∧
      names.foldlM library.visit done = .ok done' := by
  induction names generalizing done with
  | nil => exact .inr ⟨done, settled, by simp, fun _ => id, rfl⟩
  | cons name rest ih =>
    rw [List.foldlM_cons]
    rcases library.visit_root done name settled with
      ⟨e, fault, failed⟩ | ⟨done₁, settled₁, visited, grows₁, answer⟩
    · exact .inl ⟨e, fault.before rest, by rw [failed]; rfl⟩
    · rw [answer]
      rcases ih done₁ settled₁ with ⟨e, fault, failed⟩ | ⟨done₂, settled₂, all, grows₂, answer₂⟩
      · have clean := settled₁ name visited [] (by simp)
        exact .inl ⟨e, .later clean fault, failed⟩
      · refine .inr ⟨done₂, settled₂, ?_, fun other member => grows₂ _ (grows₁ _ member), answer₂⟩
        exact List.forall_mem_cons.2 ⟨grows₂ name visited, all⟩

/-- Validation meets the first fault that a search from the user's names meets, or they are all
    clean. -/
theorem validate_cases (library : Library) :
    (∃ e, library.Fault [] library.names e ∧ library.validate = .error e) ∨
    (∀ name ∈ library.names, library.Clean [] name) ∧ library.validate = .ok () := by
  unfold validate check
  rcases library.check_names library.names ∅ settled_empty with
    ⟨e, fault, failed⟩ | ⟨done, settled, all, _, answer⟩
  · exact .inl ⟨e, fault, by rw [failed]; rfl⟩
  · refine .inr ⟨fun name member => settled name (all name member) [] (by simp), ?_⟩
    rw [answer]
    rfl

/-! ### Validation and expansion -/

open Expansion (Occurs Reserves expand_cases)

/-- The names of the user's definitions ascend. -/
theorem names_ascend (library : Library) : library.names.Pairwise (· < ·) := by
  have ordered : library.names.Pairwise fun a b => compare a b = .lt :=
    Std.TreeMap.ordered_keys
  exact ordered.imp fun less => compareOfLessAndEq_eq_lt.1 less

/-- Where group names can carry all fields and the limit is beyond all definitions, the expansion
    of a name fails with the first fault that a search from the name meets. -/
theorem expand_reference [Regex.Engine] {namedOnly : Bool} {maxDepth : Nat} (word : Token.IsName name)
    (encodable : ∀ token, Occurs library (Token.reference name) token →
      ∀ field, ¬ Reserves namedOnly token field)
    (deep : library.resolvable.length < maxDepth) :
    (∃ e, library.Fault [] [name] e ∧
      library.expand (Token.reference name) namedOnly maxDepth = .error e) ∨
    library.Clean [] name ∧
      ∃ result, library.expand (Token.reference name) namedOnly maxDepth = .ok result := by
  have patterns : Token.patterns (Token.reference name) = [name] := by
    rw [Token.patterns, Token.all_reference word, List.map_singleton]
  rcases expand_cases library (Token.reference name) namedOnly maxDepth with
    ⟨result, expanded, expands⟩ | ⟨e, failed, failure⟩
  · refine .inr ⟨?_, result, expanded⟩
    have stands : (⟨name, none, none⟩ : Token) ∈ Token.tokens (Token.reference name).toList := by
      change _ ∈ Token.all (Token.reference name)
      rw [Token.all_reference word]
      exact List.mem_singleton_self _
    exact expands.clean _ stands
  · refine .inl ⟨e, ?_, failed⟩
    cases failure with
    | fault fault => rwa [patterns] at fault
    | deep chain distinct exceeds =>
      have short := chain.length_le distinct
      omega
    | reserved occurs reserves => exact absurd reserves (encodable _ occurs _)

/-- Validation and expansion agree, where the user's names are single words, group names can
    carry all fields and the limit is beyond all definitions: validation succeeds if and only if
    all names of the user can be expanded, and else fails like the first one, in ascending order,
    that cannot. -/
theorem validate_agrees [Regex.Engine] (library : Library) (namedOnly : Bool) (maxDepth : Nat)
    (words : ∀ name ∈ library.names, Token.IsName name)
    (encodable : ∀ name ∈ library.names, ∀ token, Occurs library (Token.reference name) token →
      ∀ field, ¬ Reserves namedOnly token field)
    (deep : library.resolvable.length < maxDepth) :
    (library.validate = .ok () ↔ ∀ name ∈ library.names,
      ∃ result, library.expand (Token.reference name) namedOnly maxDepth = .ok result) ∧
    ∀ e, library.validate = .error e → ∃ name ∈ library.names,
      library.expand (Token.reference name) namedOnly maxDepth = .error e ∧
      ∀ other ∈ library.names, other < name →
        ∃ result, library.expand (Token.reference other) namedOnly maxDepth = .ok result := by
  have expansions := fun name member =>
    expand_reference (words name member) (encodable name member) deep
  have expanded : ∀ name ∈ library.names, library.Clean [] name →
      ∃ result, library.expand (Token.reference name) namedOnly maxDepth = .ok result := by
    intro name member clean
    rcases expansions name member with ⟨e, fault, _⟩ | ⟨_, expanded⟩
    · exact absurd (List.forall_mem_singleton.2 clean) fault.not_clean
    · exact expanded
  rcases library.validate_cases with ⟨e, fault, failed⟩ | ⟨clean, valid⟩
  · obtain ⟨before, name, after, split, cleanBefore, fault⟩ := fault.split
    have member : name ∈ library.names := by simp [split]
    have failure : library.expand (Token.reference name) namedOnly maxDepth = .error e := by
      rcases expansions name member with ⟨e', fault', failure⟩ | ⟨clean, _⟩
      · rwa [fault.unique fault']
      · exact absurd (List.forall_mem_singleton.2 clean) fault.not_clean
    refine ⟨⟨fun valid => ?_, fun all => ?_⟩, fun e' failed' => ⟨name, member, ?_, ?_⟩⟩
    · rw [failed] at valid
      cases valid
    · obtain ⟨result, expanded⟩ := all name member
      rw [failure] at expanded
      cases expanded
    · rw [failed] at failed'
      cases failed'
      exact failure
    · intro other among less
      refine expanded other among (cleanBefore other ?_)
      have ascend := names_ascend library
      rw [split] at ascend among
      rcases List.mem_append.1 among with early | late
      · exact early
      · rcases List.mem_cons.1 late with rfl | late
        · exact absurd less (String.lt_irrefl _)
        · have greater := (List.pairwise_cons.1 (List.pairwise_append.1 ascend).2.1).1 other late
          exact absurd less (String.lt_asymm greater)
  · refine ⟨⟨fun _ name member => expanded name member (clean name member), fun _ => valid⟩, ?_⟩
    intro e failed
    rw [valid] at failed
    cases failed

/-- Two definitions of the user that refer to each other. -/
def entangled : Library :=
  (withBuiltin false).defineAll [("LEFT", "<%{RIGHT:x}"), ("RIGHT", "%{LEFT}>")]

theorem entangled_names : entangled.names = ["LEFT", "RIGHT"] := by decide +kernel

theorem entangled_left : entangled.lookup? "LEFT" = some "<%{RIGHT:x}" := by
  simp [entangled, defineAll, insert, lookup?, Std.TreeMap.getElem_insert]

theorem entangled_right : entangled.lookup? "RIGHT" = some "%{LEFT}>" := by
  simp [entangled, defineAll, insert, lookup?]

theorem all_left : Token.all "<%{RIGHT:x}" = [⟨"RIGHT", some "x", none⟩] := by
  have split : Token.first? "<%{RIGHT:x}".toList =
      some ⟨['<'], ⟨"RIGHT", some "x", none⟩, []⟩ := rfl
  show Token.tokens _ = _
  rw [Token.tokens_of_some split, Token.tokens_of_none rfl]

theorem all_right : Token.all "%{LEFT}>" = [⟨"LEFT", none, none⟩] := by
  have split : Token.first? "%{LEFT}>".toList = some ⟨[], ⟨"LEFT", none, none⟩, ['>']⟩ := rfl
  show Token.tokens _ = _
  rw [Token.tokens_of_some split, Token.tokens_of_none rfl]

theorem entangled_invalid :
    entangled.validate = .error (.cyclicPattern ["LEFT", "RIGHT", "LEFT"]) := by
  have circle : entangled.Fault ["LEFT", "RIGHT"] ["LEFT"]
      (.cyclicPattern ["LEFT", "RIGHT", "LEFT"]) := .circle (by simp)
  have fault : entangled.Fault [] entangled.names
      (.cyclicPattern ["LEFT", "RIGHT", "LEFT"]) := by
    rw [entangled_names]
    refine .inside (by simp) entangled_left ?_
    rw [Token.patterns, all_left]
    refine .inside (by simp) entangled_right ?_
    rw [Token.patterns, all_right]
    exact circle
  rcases entangled.validate_cases with ⟨e, fault', failed⟩ | ⟨clean, _⟩
  · rw [failed, fault'.unique fault]
  · exact absurd clean fault.not_clean

theorem entangled_encodable {name field : String} {token : Token} (word : Token.IsName name)
    (member : name ∈ entangled.names) (occurs : Occurs entangled (Token.reference name) token) :
    ¬ Reserves false token field := by
  have among : token = ⟨"LEFT", none, none⟩ ∨ token = ⟨"RIGHT", none, none⟩ ∨
      token = ⟨"RIGHT", some "x", none⟩ := by
    rcases occurs with stands | ⟨other, body, _, found, stands⟩
    · rw [Token.all_reference word, List.mem_singleton] at stands
      rw [entangled_names] at member
      rcases List.mem_pair.1 member with rfl | rfl
      · exact .inl stands
      · exact .inr (.inl stands)
    · have covered : entangled.resolvable = ["LEFT", "RIGHT"] := by decide +kernel
      have member := mem_resolvable.2 (contains_of_lookup? found)
      rw [covered] at member
      rcases List.mem_pair.1 member with rfl | rfl
      · obtain rfl := Option.some.inj (entangled_left.symm.trans found)
        rw [all_left, List.mem_singleton] at stands
        exact .inr (.inr stands)
      · obtain rfl := Option.some.inj (entangled_right.symm.trans found)
        rw [all_right, List.mem_singleton] at stands
        exact .inl stands
  rintro ⟨captures, reserved⟩
  rcases among with rfl | rfl | rfl
  · obtain rfl : "LEFT" = field := Option.some.inj captures
    exact absurd reserved (by decide +kernel)
  · obtain rfl : "RIGHT" = field := Option.some.inj captures
    exact absurd reserved (by decide +kernel)
  · obtain rfl : "x" = field := Option.some.inj captures
    exact absurd reserved (by decide +kernel)

theorem validate_agrees_entangled :
    entangled.validate = .error (.cyclicPattern ["LEFT", "RIGHT", "LEFT"]) ∧
      ∃ name ∈ entangled.names, entangled.expand (Token.reference name) false 3 =
          .error (.cyclicPattern ["LEFT", "RIGHT", "LEFT"]) ∧
        ∀ other ∈ entangled.names, other < name →
          ∃ result, entangled.expand (Token.reference other) false 3 = .ok result := by
  have words : ∀ name ∈ entangled.names, Token.IsName name := by
    have left : "LEFT".toList.all Unicode.isWord = true := by decide +kernel
    have right : "RIGHT".toList.all Unicode.isWord = true := by decide +kernel
    intro name member
    rw [entangled_names] at member
    rcases List.mem_pair.1 member with rfl | rfl
    · exact ⟨by decide, List.all_eq_true.1 left⟩
    · exact ⟨by decide, List.all_eq_true.1 right⟩
  have deep : entangled.resolvable.length < 3 := by decide +kernel
  exact ⟨entangled_invalid, (validate_agrees entangled false 3 words
    (fun name member _ occurs _ => entangled_encodable (words name member) member occurs)
    deep).2 _ entangled_invalid⟩

end Library

end LogSift
