import LogSift.Library.Reference
import Mathlib.Data.List.Chain
import Mathlib.Data.List.Nodup
import Mathlib.Logic.Relation

/-!
The graph of references between the definitions of a library, and what a search in depth that
keeps no record meets in it: no fault (`Clean`), or a first one (`Fault`). A clean name is sound
in the graph (`Clean.sound`), and a first fault is a true one (`Fault.witness`).
-/

namespace LogSift

/-- The names that a text refers to, in order, each as often as it is referred to. -/
def Token.patterns (text : String) : List String := (Token.all text).map (·.pattern)

namespace Library

open Relation

/-- The body of one name refers to another name. -/
def Refers (library : Library) (name other : String) : Prop :=
  ∃ body, library.lookup? name = some body ∧ other ∈ Token.patterns body

/-- A name that references lead to from the roots. -/
def Reach (library : Library) (roots : List String) (name : String) : Prop :=
  ∃ root ∈ roots, ReflTransGen library.Refers root name

/-- Nested references: the first name is a root, and each body refers to the next name. -/
structure Chain (library : Library) (roots names : List String) : Prop where
  start : ∀ first ∈ names.head?, first ∈ roots
  links : names.IsChain library.Refers

/-- Whatever a name leads to has a definition and does not lead back to itself. -/
def Sound (library : Library) (name : String) : Prop :=
  ∀ other, ReflTransGen library.Refers name other →
    library.contains other = true ∧ ¬ TransGen library.Refers other other

/-- A circle of definitions, written from a name to itself, that references from the roots lead
    to. -/
structure Circle (library : Library) (roots path : List String) : Prop where
  long : 2 ≤ path.length
  closed : path.head? = path.getLast?
  distinct : path.dropLast.Nodup
  links : path.IsChain library.Refers
  reached : ∀ first ∈ path.head?, library.Reach roots first

/-- While the given names are open, a search in depth from a name meets no fault: neither the
    name nor, in turn, what its body refers to is open or without definition. -/
inductive Clean (library : Library) : List String → String → Prop where
  | intro {openNames : List String} {name body : String} (fresh : name ∉ openNames)
      (found : library.lookup? name = some body)
      (inside : ∀ next ∈ Token.patterns body, Clean library (openNames ++ [name]) next) :
      Clean library openNames name

/-- The first fault that a search in depth meets when it takes names in order. Open names are
    listed outermost first. -/
inductive Fault (library : Library) : List String → List String → Error → Prop where
  | circle {openNames rest : List String} {name : String} (isOpen : name ∈ openNames) :
      Fault library openNames (name :: rest)
        (.cyclicPattern (openNames.dropWhile (· != name) ++ [name]))
  | unknown {openNames rest : List String} {name : String} (fresh : name ∉ openNames)
      (unknown : library.lookup? name = none) :
      Fault library openNames (name :: rest) (.unknownPattern name)
  | inside {openNames rest : List String} {name body : String} {e : Error}
      (fresh : name ∉ openNames) (found : library.lookup? name = some body)
      (fault : Fault library (openNames ++ [name]) (Token.patterns body) e) :
      Fault library openNames (name :: rest) e
  | later {openNames rest : List String} {name : String} {e : Error}
      (clean : Clean library openNames name) (fault : Fault library openNames rest e) :
      Fault library openNames (name :: rest) e

variable {library : Library} {roots openNames names : List String} {name other : String}

theorem contains_of_lookup? {body : String} (found : library.lookup? name = some body) :
    library.contains name = true := by
  simp [contains, found]

theorem Refers.contains (refers : library.Refers name other) : library.contains name = true := by
  obtain ⟨body, found, _⟩ := refers
  exact contains_of_lookup? found

/-! ### Chains -/

theorem Chain.root (member : name ∈ roots) : library.Chain roots ([] ++ [name]) := by
  refine ⟨fun first same => ?_, .singleton name⟩
  obtain rfl : name = first := by simpa using same
  exact member

theorem Chain.snoc {outer : List String} (chain : library.Chain roots (outer ++ [name]))
    (refers : library.Refers name other) : library.Chain roots (outer ++ [name] ++ [other]) := by
  refine ⟨?_, ?_⟩
  · intro first member
    exact chain.start first (by simpa [List.head?_append] using member)
  · refine chain.links.append (.singleton other) ?_
    simpa using refers

/-- All names of a chain but the last have a definition. -/
theorem Chain.contains {outer : List String} (chain : library.Chain roots (outer ++ [name])) :
    ∀ inner ∈ outer, library.contains inner = true := by
  intro inner member
  obtain ⟨before, after, rfl⟩ := List.append_of_mem member
  have links := chain.links
  rw [List.append_assoc, List.cons_append] at links
  have tail := links.right_of_append
  cases after with
  | nil => exact (List.isChain_cons_cons.1 tail).1.contains
  | cons next after => exact (List.isChain_cons_cons.1 tail).1.contains

/-- References lead to the last name of a chain. -/
theorem Chain.reach {outer : List String} (chain : library.Chain roots (outer ++ [name])) :
    library.Reach roots name := by
  have path := List.relationReflTransGen_of_exists_isChain _ chain.links (by simp)
  rw [List.getLast_append_singleton] at path
  exact ⟨_, chain.start _ (List.head_mem_head? _), path⟩

/-- A chain without repetition is no longer than there are names with a definition, and one. -/
theorem Chain.length_le {outer : List String} (chain : library.Chain roots (outer ++ [name]))
    (distinct : outer.Nodup) : outer.length ≤ library.resolvable.length :=
  distinct.length_le_of_subset fun inner member => mem_resolvable.2 (chain.contains inner member)

/-! ### Searches without fault -/

/-- A search comes to what its name leads to, with all names on the way open. -/
theorem Clean.reach (clean : library.Clean openNames name)
    (path : ReflTransGen library.Refers name other) :
    ∃ inner, openNames ⊆ inner ∧ library.Clean inner other := by
  induction path with
  | refl => exact ⟨openNames, List.Subset.refl _, clean⟩
  | tail _ refers ih =>
    obtain ⟨inner, larger, ⟨_, found, inside⟩⟩ := ih
    obtain ⟨body, found', member⟩ := refers
    obtain rfl : _ = body := Option.some.inj (found.symm.trans found')
    exact ⟨_, List.Subset.trans larger (List.subset_append_left ..), inside _ member⟩

/-- A search without fault does not come back to its name. -/
theorem Clean.not_cyclic (clean : library.Clean openNames name) :
    ¬ TransGen library.Refers name name := by
  intro path
  obtain ⟨next, ⟨body, found, member⟩, rest⟩ := TransGen.head'_iff.1 path
  obtain ⟨_, found', inside⟩ := clean
  obtain rfl : _ = body := Option.some.inj (found'.symm.trans found)
  obtain ⟨inner, larger, ⟨fresh, _, _⟩⟩ := (inside next member).reach rest
  exact fresh (larger (by simp))

theorem Clean.sound (clean : library.Clean openNames name) : library.Sound name := by
  intro other path
  obtain ⟨inner, _, there⟩ := clean.reach path
  refine ⟨?_, there.not_cyclic⟩
  obtain ⟨_, found, _⟩ := there
  exact contains_of_lookup? found

/-! ### First faults -/

/-- The fault is that of the first name, or the first name is clean. -/
theorem Fault.head_or_later {rest : List String} {e : Error}
    (fault : library.Fault openNames (name :: rest) e) :
    library.Fault openNames [name] e ∨
      library.Clean openNames name ∧ library.Fault openNames rest e := by
  cases fault with
  | circle isOpen => exact .inl (.circle isOpen)
  | unknown fresh unknown => exact .inl (.unknown fresh unknown)
  | inside fresh found fault => exact .inl (.inside fresh found fault)
  | later clean fault => exact .inr ⟨clean, fault⟩

/-- A fault comes before what is behind its name. -/
theorem Fault.before {e : Error} (fault : library.Fault openNames [name] e) (rest : List String) :
    library.Fault openNames (name :: rest) e := by
  cases fault with
  | circle isOpen => exact .circle isOpen
  | unknown fresh unknown => exact .unknown fresh unknown
  | inside fresh found fault => exact .inside fresh found fault
  | later _ fault => cases fault

/-- The names before the faulty one are clean. -/
theorem Fault.split {e : Error} (fault : library.Fault openNames names e) :
    ∃ before faulty after, names = before ++ faulty :: after ∧
      (∀ name ∈ before, library.Clean openNames name) ∧ library.Fault openNames [faulty] e := by
  induction names with
  | nil => cases fault
  | cons name rest ih =>
    rcases fault.head_or_later with fault | ⟨clean, fault⟩
    · exact ⟨[], name, rest, rfl, by simp, fault⟩
    · obtain ⟨before, faulty, after, rfl, cleanBefore, fault⟩ := ih fault
      exact ⟨name :: before, faulty, after, rfl, List.forall_mem_cons.2 ⟨clean, cleanBefore⟩, fault⟩

theorem Fault.not_clean {e : Error} (fault : library.Fault openNames names e) :
    ¬ ∀ name ∈ names, library.Clean openNames name := by
  induction fault with
  | circle isOpen =>
    intro clean
    obtain ⟨fresh, _, _⟩ := clean _ List.mem_cons_self
    exact fresh isOpen
  | unknown _ unknown =>
    intro clean
    obtain ⟨_, found, _⟩ := clean _ List.mem_cons_self
    simp [unknown] at found
  | inside _ found _ ih =>
    intro clean
    obtain ⟨_, found', inside⟩ := clean _ List.mem_cons_self
    obtain rfl := Option.some.inj (found.symm.trans found')
    exact ih inside
  | later _ _ ih => exact fun clean => ih fun name member => clean name (.tail _ member)

/-- There is one first fault at most. -/
theorem Fault.unique {e other : Error} (fault : library.Fault openNames names e)
    (fault' : library.Fault openNames names other) : e = other := by
  induction fault with
  | circle isOpen =>
    cases fault' with
    | circle => rfl
    | unknown fresh => exact absurd isOpen fresh
    | inside fresh => exact absurd isOpen fresh
    | later clean => cases clean with | intro fresh => exact absurd isOpen fresh
  | unknown fresh unknown =>
    cases fault' with
    | circle isOpen => exact absurd isOpen fresh
    | unknown => rfl
    | inside _ found => simp [unknown] at found
    | later clean => cases clean with | intro _ found => simp [unknown] at found
  | inside fresh found fault ih =>
    cases fault' with
    | circle isOpen => exact absurd isOpen fresh
    | unknown _ unknown => simp [unknown] at found
    | inside _ found' fault' =>
      obtain rfl := Option.some.inj (found.symm.trans found')
      exact ih fault'
    | later clean =>
      cases clean with
      | intro _ found' inside =>
        obtain rfl := Option.some.inj (found.symm.trans found')
        exact absurd inside fault.not_clean
  | later clean _ ih =>
    cases fault' with
    | circle isOpen => cases clean with | intro fresh => exact absurd isOpen fresh
    | unknown _ unknown => cases clean with | intro _ found => simp [unknown] at found
    | inside _ found fault' =>
      cases clean with
      | intro _ found' inside =>
        obtain rfl := Option.some.inj (found.symm.trans found')
        exact absurd inside fault'.not_clean
    | later _ fault' => exact ih fault'

/-- The open names from a repeated one on, and it once more, are a circle. -/
theorem Circle.of_chain (chain : library.Chain roots (openNames ++ [name]))
    (distinct : openNames.Nodup) (isOpen : name ∈ openNames) :
    library.Circle roots (openNames.dropWhile (· != name) ++ [name]) := by
  obtain ⟨outer, inner, rfl, absent⟩ := List.eq_append_cons_of_mem isOpen
  have before : ∀ other ∈ outer, (other != name) = true := by
    intro other member
    simpa using fun same : other = name => absent (same ▸ member)
  have circle : (outer ++ name :: inner).dropWhile (· != name) = name :: inner := by
    rw [List.dropWhile_append_of_pos before, List.dropWhile_cons_of_neg (by simp)]
  rw [circle]
  refine ⟨by simp, by rw [List.getLast?_concat]; rfl, ?_, ?_, ?_⟩
  · rw [List.dropLast_concat]
    exact (List.nodup_append.1 distinct).2.1
  · have links := chain.links
    rw [List.append_assoc] at links
    exact links.right_of_append
  · intro first member
    obtain rfl : name = first := by simpa using member
    have upTo : library.Chain roots (outer ++ [name]) := by
      refine ⟨fun first member => chain.start first ?_, ?_⟩
      · simpa [List.head?_append] using member
      · have links := chain.links
        rw [List.append_assoc, ← List.singleton_append, List.append_assoc, ← List.append_assoc]
          at links
        exact links.left_of_append
    exact upTo.reach

/-- A circle leads from a name that can be reached back to it. -/
theorem Circle.cyclic {path : List String} (circle : library.Circle roots path) :
    ∃ name, library.Reach roots name ∧ TransGen library.Refers name name := by
  obtain ⟨long, closed, _, links, reached⟩ := circle
  match path, long with
  | first :: next :: rest, _ =>
    refine ⟨first, reached first rfl, ?_⟩
    obtain ⟨refers, links⟩ := List.isChain_cons_cons.1 links
    have back := List.relationReflTransGen_of_exists_isChain _ links (by simp)
    have last : (next :: rest).getLast (by simp) = first := by
      rw [List.head?_cons, List.getLast?_cons_cons, List.getLast?_eq_some_getLast (by simp)]
        at closed
      exact (Option.some.inj closed).symm
    rw [last] at back
    exact TransGen.head' refers back

/-- A first fault is a true one: the name without definition can be reached, and the path is a
    circle that can be reached. -/
theorem Fault.witness {e : Error} (fault : library.Fault openNames names e)
    (chains : ∀ name ∈ names, library.Chain roots (openNames ++ [name]))
    (distinct : openNames.Nodup) :
    (∃ name, e = .unknownPattern name ∧ library.Reach roots name ∧
      library.lookup? name = none) ∨
    ∃ path, e = .cyclicPattern path ∧ library.Circle roots path := by
  induction fault with
  | circle isOpen =>
    exact .inr ⟨_, rfl, .of_chain (chains _ List.mem_cons_self) distinct isOpen⟩
  | unknown _ unknown => exact .inl ⟨_, rfl, (chains _ List.mem_cons_self).reach, unknown⟩
  | inside fresh found _ ih =>
    refine ih (fun next member => ?_) ?_
    · exact (chains _ List.mem_cons_self).snoc ⟨_, found, member⟩
    · rw [← List.concat_eq_append]
      exact distinct.concat fresh
  | later _ _ ih => exact ih (fun name member => chains name (.tail _ member)) distinct

/-- The first fault of a search from the roots, which has no name open. -/
theorem Fault.of_roots {e : Error} (fault : library.Fault [] roots e) :
    (∃ name, e = .unknownPattern name ∧ library.Reach roots name ∧
      library.lookup? name = none) ∨
    ∃ path, e = .cyclicPattern path ∧ library.Circle roots path :=
  fault.witness (fun _ => Chain.root) List.nodup_nil

/-- Names that are left out of a search since they are clean hide no fault. -/
theorem Fault.of_filter {e : Error} {keep : String → Bool}
    (skipped : ∀ name ∈ names, keep name = false → library.Clean openNames name)
    (fault : library.Fault openNames (names.filter keep) e) : library.Fault openNames names e := by
  induction names with
  | nil => exact fault
  | cons name rest ih =>
    have ih := ih fun other member => skipped other (.tail _ member)
    cases kept : keep name with
    | false =>
      rw [List.filter_cons_of_neg (by simp [kept])] at fault
      exact .later (skipped name List.mem_cons_self kept) (ih fault)
    | true =>
      rw [List.filter_cons_of_pos kept] at fault
      rcases fault.head_or_later with fault | ⟨clean, fault⟩
      · exact fault.before rest
      · exact .later clean (ih fault)

/-- To follow a reference once is enough to find the first fault. -/
theorem Fault.of_eraseDups {e : Error} {names : List String}
    (fault : library.Fault openNames names.eraseDups e) : library.Fault openNames names e := by
  match names with
  | [] => exact fault
  | name :: rest =>
    rw [List.eraseDups_cons] at fault
    rcases fault.head_or_later with fault | ⟨clean, fault⟩
    · exact fault.before rest
    · refine .later clean (.of_filter (fun other _ same => ?_) fault.of_eraseDups)
      obtain rfl : other = name := by simpa using same
      exact clean
termination_by names.length
decreasing_by exact Nat.lt_succ_of_le (List.length_filter_le ..)

end Library

end LogSift
