import LogSift.Proofs.Overlay

/-!
What validation says of a library. The walk takes finitely many turns, whatever the references are
(`wellFounded_turn`); its verdict is that every name the user's definitions lead to is sound, or an
error that names a true fault (`Fault.refuses`).
-/

namespace LogSift.Library

open Relation
open Std (TreeSet)

/-- What an error of validation says. -/
def Refuses (library : Library) : Error → Prop
  | .unknownPattern name => library.lookup? name = none ∧
      ∃ inner, library.Reach library.names inner ∧ library.Refers inner name
  | .cyclicPattern path => library.Circle library.names path ∧
      ∀ name ∈ path, library.Reach library.names name
  | _ => False

/-- A turn of the walk, from a path and what is done to the next ones: a name is left, or a
    reference is passed over since its name is done, or followed to the body of its name. -/
inductive Turn (library : Library) :
    List Visit × TreeSet String → List Visit × TreeSet String → Prop where
  | leave {name : String} {outer : List Visit} {done : TreeSet String} :
      Turn library (⟨name, []⟩ :: outer, done) (outer, done.insert name)
  | pass {name next : String} {pending : List String} {outer : List Visit} {done : TreeSet String}
      (isDone : done.contains next = true) :
      Turn library (⟨name, next :: pending⟩ :: outer, done) (⟨name, pending⟩ :: outer, done)
  | enter {name next body : String} {pending : List String} {outer : List Visit}
      {done : TreeSet String} (fresh : done.contains next = false)
      (closed : next ∉ name :: outer.map (·.name)) (answer : library.lookup? next = some body) :
      Turn library (⟨name, next :: pending⟩ :: outer, done)
        (⟨next, Token.references body⟩ :: ⟨name, pending⟩ :: outer, done)

variable {library : Library} {roots path : List String} {name other : String}

/-! ### Turns of the walk -/

/-- The walk goes on as its turns do. -/
theorem Turn.walk_eq {earlier later : List Visit × TreeSet String}
    (turn : library.Turn earlier later) :
    library.walk earlier.1 earlier.2 = library.walk later.1 later.2 := by
  cases turn with
  | leave => rw [walk]
  | pass isDone => rw [walk_next, if_pos isDone]
  | enter fresh closed answer => rw [walk_next, if_neg (by simp [fresh]), if_neg closed, answer]

/-- What a walk has still to do: names to visit, and for the visits begun what they have to follow
    and to leave. -/
def remaining (library : Library) (state : List Visit × TreeSet String) : Nat × Nat :=
  ((library.unvisited (state.1.map (·.name)) state.2).length, load state.1)

/-- A turn leaves less to do. -/
theorem Turn.remaining_lt {earlier later : List Visit × TreeSet String}
    (turn : library.Turn earlier later) :
    Prod.Lex (· < ·) (· < ·) (library.remaining later) (library.remaining earlier) := by
  cases turn with
  | leave =>
    rw [remaining, remaining, List.map_cons, ← unvisited_leave]
    exact .right _ (by simp [load])
  | pass isDone => exact .right _ (by simp [load])
  | enter fresh closed answer =>
    refine .left _ _ (unvisited_open_lt (contains_of_lookup? answer) fresh ?_)
    exact Bool.eq_false_iff.2 fun isOpen => closed (List.contains_iff_mem.1 isOpen)

/-- No walk takes turns for ever, whatever circles the references form. -/
theorem wellFounded_turn (library : Library) :
    WellFounded fun later earlier => library.Turn earlier later := by
  have order : WellFounded (Prod.Lex (· < · : Nat → Nat → Prop) (· < · : Nat → Nat → Prop)) :=
    (Prod.lex Nat.lt_wfRel Nat.lt_wfRel).wf
  exact Subrelation.wf Turn.remaining_lt (InvImage.wf library.remaining order)

/-! ### The verdict -/

theorem Reach.tail (reach : library.Reach roots name) (refers : library.Refers name other) :
    library.Reach roots other := by
  obtain ⟨root, member, path⟩ := reach
  exact ⟨root, member, path.tail refers⟩

/-- Where references lead to bodies without tokens, no further names are reached. -/
theorem mem_of_reach_leaves
    (leaves : ∀ root ∈ roots, ∀ body, library.lookup? root = some body → Token.patterns body = [])
    (reach : library.Reach roots name) : name ∈ roots := by
  obtain ⟨root, member, path⟩ := reach
  rcases path.cases_head with rfl | ⟨next, ⟨body, found, refers⟩, _⟩
  · exact member
  · rw [leaves root member body found] at refers
    cases refers

/-- All names of a circle are reached, not only the one it is entered at. -/
theorem Circle.reach (circle : library.Circle roots path) :
    ∀ name ∈ path, library.Reach roots name :=
  circle.links.induction _ path (fun _ _ refers reach => reach.tail refers) fun nonempty =>
    circle.reached _ (List.head_mem_head? nonempty)

/-- A name without definition that the user's definitions lead to is one that a body refers to, for
    the user's own names have definitions. -/
theorem Reach.referred (reach : library.Reach library.names name)
    (unknown : library.lookup? name = none) :
    ∃ inner, library.Reach library.names inner ∧ library.Refers inner name := by
  obtain ⟨root, own, path⟩ := reach
  rcases path.cases_tail with rfl | ⟨inner, upTo, refers⟩
  · obtain ⟨body, found⟩ := mem_names.1 own
    simp [lookup?, found] at unknown
  · exact ⟨inner, ⟨root, own, upTo⟩, refers⟩

/-- The first fault that a search from the user's names meets is one that validation may report. -/
theorem Fault.refuses {e : Error} (fault : library.Fault [] library.names e) :
    library.Refuses e := by
  rcases fault.of_roots with ⟨name, rfl, reach, unknown⟩ | ⟨path, rfl, circle⟩
  · exact ⟨unknown, reach.referred unknown⟩
  · exact ⟨circle, circle.reach⟩

/-- A library with a fault is not sound. -/
theorem Refuses.not_sound {e : Error} (refuses : library.Refuses e) :
    ¬ ∀ name, library.Reach library.names name →
      library.contains name = true ∧ ¬ TransGen library.Refers name name := by
  intro sound
  cases e with
  | unknownPattern name =>
    obtain ⟨unknown, inner, reach, refers⟩ := refuses
    simpa [contains, unknown] using (sound name (reach.tail refers)).1
  | cyclicPattern path =>
    obtain ⟨name, reach, cyclic⟩ := refuses.1.cyclic
    exact (sound name reach).2 cyclic
  | _ => exact refuses

/-- Validation comes to an end. It accepts a library if and only if all names that the user's
    definitions lead to have definitions and none of them leads back to itself, and its errors are
    true. -/
theorem validate_verdict (library : Library) :
    (WellFounded (fun later earlier => library.Turn earlier later) ∧
      ∀ earlier later, library.Turn earlier later →
        library.walk earlier.1 earlier.2 = library.walk later.1 later.2) ∧
    (library.validate = .ok () ↔ ∀ name, library.Reach library.names name →
      library.contains name = true ∧ ¬ TransGen library.Refers name name) ∧
    ∀ e, library.validate = .error e → library.Refuses e := by
  refine ⟨⟨library.wellFounded_turn, fun _ _ => Turn.walk_eq⟩, ?_⟩
  rcases library.validate_cases with ⟨e, fault, failed⟩ | ⟨clean, valid⟩
  · have refuses := fault.refuses
    refine ⟨⟨fun valid => ?_, fun sound => absurd sound refuses.not_sound⟩, fun e' failed' => ?_⟩
    · rw [failed] at valid
      cases valid
    · rw [failed] at failed'
      cases failed'
      exact refuses
  · refine ⟨⟨fun _ name reach => ?_, fun _ => valid⟩, fun e failed => ?_⟩
    · obtain ⟨root, own, path⟩ := reach
      exact (clean root own).sound name path
    · rw [valid] at failed
      cases failed

end LogSift.Library
