import LogSift.Builtin.Base
import Std.Data.TreeMap

/-!
Libraries of pattern definitions. The definitions of the user stand before the built-in ones,
and a library may do without those altogether.
-/

namespace LogSift

open Std (TreeMap)

/-- The definitions that expressions are expanded with. -/
structure Library where
  /-- The definitions of the user, by name. -/
  own : TreeMap String String := ∅
  /-- Do the built-in definitions answer where the user has none? -/
  builtin : Bool := true

namespace Library

/-- A library without definitions of the user. -/
def withBuiltin (builtin : Bool) : Library := { builtin }

/-- The body of a name: the user's if there is one, else the built-in one if those count. -/
def lookup? (library : Library) (name : String) : Option String :=
  match library.own[name]? with
  | some body => some body
  | none => if library.builtin then Builtin.body? name else none

def contains (library : Library) (name : String) : Bool := (library.lookup? name).isSome

/-- Adds a definition of the user, in place of the one it had. -/
def insert (library : Library) (name body : String) : Library :=
  { library with own := library.own.insert name body }

/-- Adds a definition, and gives back the body of the user's that it replaces. -/
def define (library : Library) (name body : String) : Option String × Library :=
  (library.own[name]?, library.insert name body)

/-- Adds definitions in order, so that the last one of a name counts. -/
def defineAll (library : Library) (definitions : List (String × String)) : Library :=
  definitions.foldl (fun library (name, body) => library.insert name body) library

/-- Removes a definition of the user and gives its body back. A built-in definition that it
    covered comes to light again. -/
def remove (library : Library) (name : String) : Option String × Library :=
  (library.own[name]?, { library with own := library.own.erase name })

/-- The number of definitions of the user. -/
def size (library : Library) : Nat := library.own.size

def isEmpty (library : Library) : Bool := library.own.isEmpty

/-- The names of the user's definitions, in ascending order. -/
def names (library : Library) : List String := library.own.keys

/-- The definitions of the user in ascending order of their names. -/
def definitions (library : Library) : List (String × String) := library.own.toList

/-- The names with a definition, each once: the user's, and the built-in ones that those do not
    cover if they count. -/
def resolvable (library : Library) : List String :=
  library.names ++
    if library.builtin then
      (Builtin.base.map (·.1)).filter fun name => !library.own.contains name
    else []

/-- The circle that a reference to an open name closes: the open names from `name` on, outermost
    first, and `name` once more. The open names are listed innermost first. -/
def circle (openNames : List String) (name : String) : List String :=
  (openNames.takeWhile (· != name) ++ [name]).reverse ++ [name]

/-- Where open names are distinct, the circle is what an outermost name first list has from the
    repeated name on. -/
theorem circle_eq {names : List String} {name : String} (distinct : names.Nodup)
    (member : name ∈ names) :
    circle names name = names.reverse.dropWhile (· != name) ++ [name] := by
  obtain ⟨inner, outer, rfl⟩ := List.append_of_mem member
  have before : ∀ other ∈ inner, (other != name) = true := by
    intro other found
    have apart := (List.nodup_append.1 distinct).2.2 other found name (by simp)
    simpa using apart
  have behind : ∀ other ∈ outer.reverse, (other != name) = true := by
    intro other found
    have apart := (List.nodup_cons.1 (List.nodup_append.1 distinct).2.1).1
    have : other ≠ name := fun same => apart (same ▸ List.mem_reverse.1 found)
    simpa using this
  have stop : (name != name) = false := by simp
  simp only [circle, List.takeWhile_append_of_pos before, List.takeWhile_cons, stop,
    List.reverse_append, List.reverse_cons, List.append_assoc,
    List.dropWhile_append_of_pos behind]
  simp

/-- Every body that a library may answer with. -/
def bodies (library : Library) : List String :=
  library.own.toList.map (·.2) ++ Builtin.base.map (·.2)

/-- The length of the longest body. -/
def longestBody (library : Library) : Nat :=
  (library.bodies.map (·.toList.length)).foldr max 0

theorem le_foldr_max {n : Nat} {ns : List Nat} (h : n ∈ ns) : n ≤ ns.foldr max 0 := by
  induction ns with
  | nil => simp at h
  | cons m rest ih =>
    simp only [List.mem_cons] at h
    simp only [List.foldr_cons]
    rcases h with rfl | h
    · exact Nat.le_max_left ..
    · exact Nat.le_trans (ih h) (Nat.le_max_right ..)

/-- What a library answers is one of its bodies. -/
theorem mem_of_lookup? {library : Library} {name body : String}
    (h : library.lookup? name = some body) :
    body ∈ library.bodies := by
  unfold lookup? at h
  unfold bodies
  split at h
  · next own found =>
    simp only [Option.some.injEq] at h
    subst h
    refine List.mem_append_left _ ?_
    exact List.mem_map.2 ⟨(name, own), Std.TreeMap.mem_toList_iff_getElem?_eq_some.2 found, rfl⟩
  · split at h
    · refine List.mem_append_right _ ?_
      simp only [Builtin.body?, Builtin.Table.body?, Option.map_eq_some_iff] at h
      obtain ⟨entry, found, rfl⟩ := h
      exact List.mem_map.2 ⟨entry, List.mem_of_find?_eq_some found, rfl⟩
    · simp at h

theorem length_le_longestBody {library : Library} {name body : String}
    (h : library.lookup? name = some body) : body.toList.length ≤ library.longestBody :=
  le_foldr_max (List.mem_map.2 ⟨body, mem_of_lookup? h, rfl⟩)

/-- The names with a definition are those that a library has an answer for. -/
theorem mem_resolvable {library : Library} {name : String} :
    name ∈ library.resolvable ↔ library.contains name = true := by
  have table : name ∈ Builtin.base.map (·.1) ↔ (Builtin.body? name).isSome = true := by
    simp [Builtin.body?, Builtin.Table.body?]
  have own : library.own.contains name = (library.own[name]?).isSome :=
    Std.TreeMap.contains_eq_isSome_getElem?
  unfold resolvable contains lookup? names
  cases found : library.own[name]? with
  | some body =>
    have key : name ∈ library.own := by rw [← Std.TreeMap.contains_iff_mem, own, found]; rfl
    simp [key]
  | none =>
    have absent : library.own.contains name = false := by rw [own, found]; rfl
    have key : name ∉ library.own := by simp [← Std.TreeMap.contains_iff_mem, absent]
    cases builtin : library.builtin with
    | true => simpa [key, absent] using table
    | false => simp [key]

end Library

end LogSift
