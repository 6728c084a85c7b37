import LogSift.Library.Command
import LogSift.Proofs.Validation
import LogSift.Settings
import Mathlib.Data.List.Induction

/-!
Libraries in two tiers. Whatever a library is told, its own definitions are what the changes so far
have left standing (`own_makeAll`), and the built-in ones are seen where it has none of its own. So
after any run of commands, a name has the body installed last, or else the built-in one, which no
command replaces, removes or gives back (`obeyAll_two_tier`).
-/

namespace LogSift.Library

open Std (TreeMap)

/-- A change of a user's definitions: a body is installed for a name, or the name is removed. -/
inductive Change where
  | install (name body : String)
  | remove (name : String)
  deriving DecidableEq, Repr

/-- The name that a change is about. -/
def Change.name : Change → String
  | install name _ => name
  | remove name => name

/-- The changes that definitions make in order. -/
def installs (definitions : List (String × String)) : List Change :=
  definitions.map fun (name, body) => .install name body

/-- The changes that a load makes: none if nothing could be read. -/
def loads (read : Except Error (List (String × String))) : List Change :=
  match read with
  | .ok definitions => installs definitions
  | .error _ => []

/-- The changes that a command makes, whatever has been defined before. -/
def Command.changes : Command → List Change
  | .define name body => [.install name body]
  | .defineAll entries => installs entries
  | .addTable name => installs ((Builtin.table? name).getD [])
  | .remove name => [.remove name]
  | .loadListing text => loads (Listing.read text)
  | .loadFile bytes =>
    match bytes.bind Utf8.decodeText? with
    | some text => loads (Listing.read text)
    | none => []
  | .loadYaml text => loads ((readYaml text).map (·.toList))
  | .loadJson text => loads ((readJson text).map (·.toList))
  | .lookup _ | .contains _ | .size | .isEmpty | .names | .definitions | .usesBuiltin
  | .validate | .expand _ _ _ => []

/-- A body stands for a name: the last change of the name installs it. -/
def Stands (changes : List Change) (name body : String) : Prop :=
  ∃ before after, changes = before ++ .install name body :: after ∧
    ∀ change ∈ after, change.name ≠ name

/-- How a library comes about: without definitions of the user, or from settings. -/
inductive Origin where
  | bare (builtin : Bool)
  | settings (chosen : Settings)

/-- The library at the beginning. -/
def Origin.library : Origin → Library
  | bare builtin => withBuiltin builtin
  | settings chosen => ofSettings chosen

/-- Do the built-in definitions count? -/
def Origin.builtin : Origin → Bool
  | bare builtin => builtin
  | settings chosen => chosen.builtin

/-- The changes that a library begins with. -/
def Origin.changes : Origin → List Change
  | bare _ => []
  | settings chosen => installs chosen.patterns.toList

/-- A library has two tiers: the definitions that changes have left standing, which it lists in
    ascending order, and below them the built-in ones if those count. -/
structure TwoTier (library : Library) (builtin : Bool) (changes : List Change) : Prop where
  lookup : ∀ name body, library.lookup? name = some body ↔
    Stands changes name body ∨
      (∀ own, ¬ Stands changes name own) ∧ builtin = true ∧ Builtin.body? name = some body
  names : ∀ name, name ∈ library.names ↔ ∃ body, Stands changes name body
  ascend : library.names.Pairwise (· < ·)
  size : library.size = library.names.length
  isEmpty : library.isEmpty = true ↔ library.names = []
  switch : library.builtin = builtin

/-- What a library does with commands: it gives back the body of the user's that it replaces or
    removes, removal leaves the built-in definitions as they are, a command that fails changes
    nothing, and loads of tables count their names. -/
structure Obedient [Regex.Engine]
    (library : Library) (builtin : Bool) (changes : List Change) : Prop where
  define : ∀ name body, ∃ old, (library.obey (.define name body)).1 = .ok (.body old) ∧
    ∀ own, old = some own ↔ Stands changes name own
  remove : ∀ name, ∃ old, (library.obey (.remove name)).1 = .ok (.body old) ∧
    ∀ own, old = some own ↔ Stands changes name own
  uncovers : ∀ name, (library.obey (.remove name)).2.lookup? name =
    if builtin then Builtin.body? name else none
  spares : ∀ name, (∀ own, ¬ Stands changes name own) →
    (library.obey (.remove name)).2.definitions = library.definitions ∧
    ∀ other, (library.obey (.remove name)).2.lookup? other = library.lookup? other
  fails : ∀ command e, (library.obey command).1 = .error e → (library.obey command).2 = library
  yaml : ∀ text definitions, readYaml text = .ok definitions →
    (library.obey (.loadYaml text)).1 = .ok (.count definitions.size)
  json : ∀ text definitions, readJson text = .ok definitions →
    (library.obey (.loadJson text)).1 = .ok (.count definitions.size)

variable {library : Library} {builtin : Bool} {change : Change} {changes : List Change}
  {name body : String}

/-! ### Changes -/

/-- Makes a change. -/
def make (library : Library) : Change → Library
  | .install name body => library.insert name body
  | .remove name => (library.remove name).2

/-- Makes changes in order. -/
def makeAll (library : Library) (changes : List Change) : Library := changes.foldl make library

theorem makeAll_append (library : Library) (first rest : List Change) :
    library.makeAll (first ++ rest) = (library.makeAll first).makeAll rest := List.foldl_append

theorem makeAll_installs (library : Library) (definitions : List (String × String)) :
    library.makeAll (installs definitions) = library.defineAll definitions := by
  rw [makeAll, installs, List.foldl_map]
  rfl

theorem loaded_install (library : Library) (read : Except Error (List (String × String))) :
    (library.loaded (read.map library.install)).2 = library.makeAll (loads read) := by
  cases read with
  | error e => rfl
  | ok definitions => exact (makeAll_installs library definitions).symm

theorem loaded_definitions (library : Library) (read : Except Error Definitions) :
    (library.loaded (read.map fun definitions => library.install definitions.toList)).2 =
      library.makeAll (loads (read.map (·.toList))) := by
  cases read with
  | error e => rfl
  | ok definitions => exact (makeAll_installs library definitions.toList).symm

/-- A command does no more to a library than its changes. -/
theorem obey_eq_makeAll [Regex.Engine] (library : Library) (command : Command) :
    (library.obey command).2 = library.makeAll command.changes := by
  cases command with
  | defineAll definitions => exact (makeAll_installs library definitions).symm
  | addTable name =>
    cases found : Builtin.table? name with
    | none => simp [obey, Command.changes, found, installs, makeAll]
    | some table => simp [obey, Command.changes, found, makeAll_installs]
  | loadListing text => exact library.loaded_install (Listing.read text)
  | loadFile bytes =>
    cases bytes with
    | none => rfl
    | some bytes =>
      cases decoded : Utf8.decodeText? bytes with
      | none => simp [obey, Command.changes, loadFile, decoded, loaded, makeAll]
      | some text =>
        simp only [obey, Command.changes, loadFile, Option.map_some, Option.bind_some, decoded]
        exact library.loaded_install (Listing.read text)
  | loadYaml text => exact library.loaded_definitions (readYaml text)
  | loadJson text => exact library.loaded_definitions (readJson text)
  | _ => rfl

theorem loaded_of_error {read : Except Error (Nat × Library)} {e : Error}
    (failed : (library.loaded read).1 = .error e) : (library.loaded read).2 = library := by
  cases read with
  | error e => rfl
  | ok answer => cases failed

/-- A command that fails leaves the library as it was. -/
theorem obey_of_error [Regex.Engine] (library : Library) (command : Command) (e : Error)
    (failed : (library.obey command).1 = .error e) : (library.obey command).2 = library := by
  cases command with
  | loadListing text => exact loaded_of_error failed
  | loadFile bytes => exact loaded_of_error failed
  | loadYaml text => exact loaded_of_error failed
  | loadJson text => exact loaded_of_error failed
  | addTable name =>
    cases found : Builtin.table? name with
    | none => simp [obey, found]
    | some table => simp [obey, found] at failed
  | define | defineAll | remove => cases failed
  | _ => rfl

theorem obeyAll_eq_makeAll [Regex.Engine] (library : Library) (commands : List Command) :
    library.obeyAll commands = library.makeAll (commands.flatMap Command.changes) := by
  induction commands generalizing library with
  | nil => rfl
  | cons command rest ih =>
    rw [List.flatMap_cons, makeAll_append, ← obey_eq_makeAll]
    exact ih _

theorem library_eq_makeAll (origin : Origin) :
    origin.library = (withBuiltin origin.builtin).makeAll origin.changes := by
  cases origin with
  | bare builtin => rfl
  | settings chosen => exact (makeAll_installs ..).symm

/-! ### What stands -/

theorem not_stands_nil (name body : String) : ¬ Stands [] name body := by
  rintro ⟨before, after, split, -⟩
  simp at split

/-- One change more installs a body, or leaves what stands for other names. -/
theorem stands_concat : Stands (changes ++ [change]) name body ↔
    change = .install name body ∨ change.name ≠ name ∧ Stands changes name body := by
  constructor
  · rintro ⟨before, after, split, later⟩
    rcases List.eq_nil_or_concat after with rfl | ⟨after, last, rfl⟩
    · obtain ⟨-, same⟩ := List.append_inj' split rfl
      exact .inl (List.singleton_inj.1 same)
    · rw [List.concat_eq_append] at split later
      rw [← List.cons_append, ← List.append_assoc] at split
      obtain ⟨rfl, same⟩ := List.append_inj' split rfl
      obtain rfl := List.singleton_inj.1 same
      exact .inr ⟨later change (by simp), before, after, rfl, fun other member =>
        later other (List.mem_append_left _ member)⟩
  · rintro (rfl | ⟨apart, before, after, rfl, later⟩)
    · exact ⟨changes, [], rfl, by simp⟩
    · refine ⟨before, after ++ [change], by simp, fun other member => ?_⟩
      rcases List.mem_append.1 member with member | last
      · exact later other member
      · exact List.mem_singleton.1 last ▸ apart

/-- The user's definitions are what the changes have left standing. -/
theorem own_makeAll (builtin : Bool) (changes : List Change) (name body : String) :
    ((withBuiltin builtin).makeAll changes).own[name]? = some body ↔
      Stands changes name body := by
  induction changes using List.reverseRecOn with
  | nil => simp [makeAll, withBuiltin, not_stands_nil]
  | append_singleton changes change ih =>
    rw [makeAll_append, stands_concat, ← ih]
    cases change with
    | install other text =>
      by_cases same : other = name
      · simp [makeAll, make, insert, Change.name, same]
      · simp [makeAll, make, insert, Change.name, same, TreeMap.getElem?_insert]
    | remove other =>
      by_cases same : other = name
      · simp [makeAll, make, Library.remove, Change.name, same]
      · simp [makeAll, make, Library.remove, Change.name, same, TreeMap.getElem?_erase]

theorem builtin_makeAll (library : Library) (changes : List Change) :
    (library.makeAll changes).builtin = library.builtin := by
  induction changes generalizing library with
  | nil => rfl
  | cons change rest ih =>
    rw [makeAll, List.foldl_cons, ← makeAll, ih]
    cases change <;> rfl

/-! ### What is seen and answered -/

/-- A library whose own definitions are those that stand has two tiers. -/
theorem twoTier_of_own (own : ∀ name body, library.own[name]? = some body ↔
      Stands changes name body) (switch : library.builtin = builtin) :
    TwoTier library builtin changes := by
  have listed (name : String) : name ∈ library.names ↔ ∃ body, Stands changes name body := by
    rw [names, TreeMap.mem_keys, TreeMap.mem_iff_isSome_getElem?, Option.isSome_iff_exists]
    exact exists_congr (own name)
  refine ⟨fun name body => ?_, listed, names_ascend library, ?_, ?_, switch⟩
  · cases found : library.own[name]? with
    | some text =>
      have stands := (own name text).1 found
      rw [lookup?, found, ← own, found]
      simp only [Option.some.injEq, iff_self_or, and_imp]
      intro none
      exact absurd stands (none text)
    | none =>
      have none : ∀ text, ¬ Stands changes name text := by
        intro text stands
        rw [(own name text).2 stands] at found
        cases found
      rw [lookup?, found, switch]
      simp [none]
  · exact TreeMap.length_keys.symm
  · rw [isEmpty, names]
    exact TreeMap.isEmpty_keys ▸ List.isEmpty_iff

/-- Such a library does with commands as it should. -/
theorem obedient_of_own [Regex.Engine] (own : ∀ name body, library.own[name]? = some body ↔
      Stands changes name body) (switch : library.builtin = builtin) :
    Obedient library builtin changes := by
  refine ⟨fun name body => ⟨_, rfl, own name⟩, fun name => ⟨_, rfl, own name⟩, ?_, ?_, ?_, ?_, ?_⟩
  · intro name
    simp [obey, Library.remove, lookup?, switch]
  · intro name none
    have absent : library.own[name]? = Option.none := by
      refine Option.eq_none_iff_forall_ne_some.2 fun text found => ?_
      exact none text ((own name text).1 found)
    have kept (other : String) : (library.own.erase name)[other]? = library.own[other]? := by
      by_cases same : name = other
      · rw [← same, absent, TreeMap.getElem?_erase_self]
      · simp [TreeMap.getElem?_erase, same]
    constructor
    · exact (TreeMap.Equiv.of_forall_constGet?_eq kept).toList_eq
    · intro other
      show (library.remove name).2.lookup? other = library.lookup? other
      rw [lookup?, Library.remove, kept, lookup?]
  · exact fun command e => library.obey_of_error command e
  · intro text definitions read
    simp [obey, loadYaml, read, loaded, install, Except.map]
  · intro text definitions read
    simp [obey, loadJson, read, loaded, install, Except.map]

/-- After any run of commands, from any origin, a library has two tiers and obeys. -/
theorem obeyAll_two_tier [Regex.Engine] (origin : Origin) (commands : List Command) :
    TwoTier (origin.library.obeyAll commands) origin.builtin
      (origin.changes ++ commands.flatMap Command.changes) ∧
    Obedient (origin.library.obeyAll commands) origin.builtin
      (origin.changes ++ commands.flatMap Command.changes) := by
  have made : origin.library.obeyAll commands = (withBuiltin origin.builtin).makeAll
      (origin.changes ++ commands.flatMap Command.changes) := by
    rw [obeyAll_eq_makeAll, library_eq_makeAll, makeAll_append]
  rw [made]
  have switch := builtin_makeAll (withBuiltin origin.builtin)
    (origin.changes ++ commands.flatMap Command.changes)
  exact ⟨twoTier_of_own (own_makeAll _ _) switch, obedient_of_own (own_makeAll _ _) switch⟩

end LogSift.Library
