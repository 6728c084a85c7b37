import LogSift.Error
import LogSift.Library
import LogSift.Token
import Std.Data.TreeSet

/-!
The references between definitions. A walk in depth from the user's definitions finds the first
name without definition, or the first circle.
-/

namespace LogSift.Library

open Std (TreeSet)

/-- The names that the body of a name refers to. -/
def references (library : Library) (name : String) : Except Error (List String) :=
  match library.lookup? name with
  | some body => .ok (Token.references body)
  | none => .error (.unknownPattern name)

/-- A name being visited, with the references of its body that are still to follow. -/
structure Visit where
  name : String
  pending : List String
  deriving DecidableEq, Repr

/-- The names with a definition that are neither done nor open. -/
def unvisited (library : Library) (openNames : List String) (done : TreeSet String) :
    List String :=
  library.resolvable.filter fun name => !done.contains name && !openNames.contains name

/-- The references that a path has still to follow, and the names that it has still to leave. -/
def load (path : List Visit) : Nat :=
  (path.map fun visit => visit.pending.length + 1).foldr (· + ·) 0

theorem contains_of_references {library : Library} {name : String} {names : List String}
    (h : library.references name = .ok names) : library.contains name = true := by
  unfold references at h
  split at h
  · next body found => simp [contains, found]
  · simp at h

/-- Opening a name leaves fewer names to visit. -/
theorem unvisited_open_lt {library : Library} {openNames : List String} {done : TreeSet String}
    {next : String} (defined : library.contains next = true)
    (fresh : done.contains next = false) (closed : openNames.contains next = false) :
    (library.unvisited (next :: openNames) done).length <
      (library.unvisited openNames done).length := by
  have smaller : library.unvisited (next :: openNames) done =
      (library.unvisited openNames done).filter (· != next) := by
    unfold unvisited
    rw [List.filter_filter]
    refine List.filter_congr fun name _ => ?_
    by_cases same : name = next
    · simp [same]
    · simp [same]
  rw [smaller]
  refine List.length_filter_lt_length_iff_exists.2 ⟨next, ?_, by simp⟩
  unfold unvisited
  rw [List.mem_filter, fresh, closed]
  exact ⟨mem_resolvable.2 defined, rfl⟩

/-- A name that is left is as little to visit as one that is open. -/
theorem unvisited_leave {library : Library} {openNames : List String} {done : TreeSet String}
    {name : String} :
    library.unvisited openNames (done.insert name) = library.unvisited (name :: openNames) done := by
  unfold unvisited
  refine List.filter_congr fun other _ => ?_
  rw [Std.TreeSet.contains_insert, List.contains_cons]
  by_cases same : name = other
  · simp [same]
  · have differ : (other == name) = false := by simpa using Ne.symm same
    have apart : (compare name other == .eq) = false := by simpa using same
    simp [apart, differ]

/-- Follows the references that a path has still to follow, innermost name first. A name that is
    left is done; what is done is not visited again. -/
def walk (library : Library) (path : List Visit) (done : TreeSet String) :
    Except Error (TreeSet String) :=
  match path with
  | [] => .ok done
  | ⟨name, []⟩ :: outer => walk library outer (done.insert name)
  | ⟨name, next :: pending⟩ :: outer =>
    if _fresh : done.contains next then walk library (⟨name, pending⟩ :: outer) done
    else if _closed : (name :: outer.map (·.name)).contains next then
      .error (.cyclicPattern (circle (name :: outer.map (·.name)) next))
    else
      match _found : library.references next with
      | .error e => .error e
      | .ok names => walk library (⟨next, names⟩ :: ⟨name, pending⟩ :: outer) done
termination_by ((library.unvisited (path.map (·.name)) done).length, load path)
decreasing_by
  · rw [List.map_cons, ← unvisited_leave]
    exact Prod.Lex.right _ (by simp [load])
  · exact Prod.Lex.right _ (by simp [load])
  · exact Prod.Lex.left _ _ (unvisited_open_lt (contains_of_references _found)
      (Bool.eq_false_iff.2 _fresh) (Bool.eq_false_iff.2 _closed))

/-- Visits a name and all that its body refers to, unless it is done already. -/
def visit (library : Library) (done : TreeSet String) (root : String) :
    Except Error (TreeSet String) :=
  if done.contains root then .ok done
  else
    match library.references root with
    | .error e => .error e
    | .ok names => library.walk [⟨root, names⟩] done

/-- Visits names in order. What one visit has done needs no other. -/
def check (library : Library) (names : List String) : Except Error (TreeSet String) :=
  names.foldlM library.visit ∅

/-- Does every definition of the user resolve, through all references, without a circle? The
    names are visited in ascending order. -/
def validate (library : Library) : Except Error Unit :=
  (library.check library.names).map fun _ => ()

end LogSift.Library
