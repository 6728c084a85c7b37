import LogSift.Proofs.Listed
import LogSift.Proofs.Lockstep
import LogSift.Proofs.Tiers
import LogSift.Regex.Footprint

/-!
Definitions that an expression does not lead to. Expansion looks up the names of tokens that stand in
the expression or in a body that references lead to, and no others. So libraries that answer alike
about these names do alike with the expression, also where it cannot be expanded, and definitions
of other names can come and go (`indistinct_unreached`).
-/

namespace LogSift

namespace Library

/-- Two libraries agree on an expression: they answer alike about all names that it leads to, be it
    with a body or with none. -/
def Agrees (library other : Library) (expression : String) : Prop :=
  ∀ name, library.Reach (Token.patterns expression) name →
    other.lookup? name = library.lookup? name

/-- An expression cannot tell two libraries apart: it leads to the same names, and what it is
    expanded and compiled to is the same, or the error is. -/
structure Indistinct [Regex.Engine] (library other : Library) (expression : String) : Prop where
  reach : ∀ name, other.Reach (Token.patterns expression) name ↔
    library.Reach (Token.patterns expression) name
  expand : ∀ namedOnly maxDepth,
    other.expand expression namedOnly maxDepth = library.expand expression namedOnly maxDepth
  compile : ∀ namedOnly settings, Matcher.compile other expression namedOnly settings =
    Matcher.compile library expression namedOnly settings

variable {library other : Library} {expression name : String} {change : Change}
  {changes : List Change}

/-! ### Names -/

theorem Agrees.reach (agrees : library.Agrees other expression)
    (reach : other.Reach (Token.patterns expression) name) :
    library.Reach (Token.patterns expression) name := by
  obtain ⟨root, member, path⟩ := reach
  induction path with
  | refl => exact ⟨root, member, .refl⟩
  | tail _ refers ih =>
    obtain ⟨body, found, refers⟩ := refers
    exact ih.tail ⟨body, (agrees _ ih).symm.trans found, refers⟩

/-- It does not matter in which of the two libraries the names are reached. -/
theorem Agrees.symm (agrees : library.Agrees other expression) : other.Agrees library expression :=
  fun name reach => (agrees name (agrees.reach reach)).symm

end Library

/-! ### Expansion -/

namespace Expansion

variable {library other : Library} {expression : String} {namedOnly : Bool} {maxDepth : Nat}

theorem body_congr {token : Token} (alike : other.lookup? token.pattern = library.lookup? token.pattern)
    (openNames : List String) (depth : Nat) :
    body other maxDepth openNames depth token = body library maxDepth openNames depth token := by
  rw [body, body, alike]

/-- A run does alike with libraries that agree, as long as the tokens ahead of it occur. -/
theorem run_congr (agrees : library.Agrees other expression) (frames : List Frame) (out : Output)
    (pending : Pending library expression frames) :
    run other namedOnly maxDepth frames out = run library namedOnly maxDepth frames out := by
  induction frames, out using run.induct library namedOnly maxDepth with
  | case1 out => rw [run, run]
  | case2 out name rest outer split emitted ih =>
    rw [run_of_none split, run_of_none split]
    exact ih pending.leave
  | case3 out name rest outer before token after split openNames e refused =>
    have alike := agrees _ (pending.occurs split).reach
    rw [run_of_some split, run_of_some split, body_congr alike,
      show openNamesOf _ = openNames from rfl, refused]
  | case4 out name rest outer before token after split openNames text found e refused =>
    have alike := agrees _ (pending.occurs split).reach
    rw [run_of_some split, run_of_some split, body_congr alike,
      show openNamesOf _ = openNames from rfl, found]
    simp only [refused]
  | case5 out name rest outer before token after split openNames text found entered opened ih =>
    have alike := agrees _ (pending.occurs split).reach
    rw [run_of_some split, run_of_some split, body_congr alike,
      show openNamesOf _ = openNames from rfl, found]
    simp only [opened]
    exact ih (pending.enter split (lookup?_of_body found))

end Expansion

namespace Library

open Expansion (letters)

variable {library other : Library} {expression name : String} {change : Change}
  {changes : List Change}

theorem Agrees.indistinct [Regex.Engine] (agrees : library.Agrees other expression) :
    library.Indistinct other expression := by
  have expand (namedOnly : Bool) (maxDepth : Nat) :
      other.expand expression namedOnly maxDepth = library.expand expression namedOnly maxDepth := by
    rw [Library.expand_eq_run, Library.expand_eq_run, Expansion.run_congr agrees _ _ Expansion.pending_start]
  refine ⟨fun name => ⟨agrees.reach, agrees.symm.reach⟩, expand, fun namedOnly settings => ?_⟩
  rw [Matcher.compile, Matcher.compile, expand]

/-! ### Changes -/

theorem lookup?_make (library : Library) (apart : change.name ≠ name) :
    (library.make change).lookup? name = library.lookup? name := by
  cases change with
  | install other body =>
    rw [make, lookup?_insert]
    exact if_neg apart
  | remove other =>
    have own : (library.own.erase other)[name]? = library.own[name]? := by
      simp [Std.TreeMap.getElem?_erase, show other ≠ name from apart]
    rw [make, Library.remove, lookup?, lookup?, own]

/-- Changes that are not about a name leave the answer for it as it is. -/
theorem lookup?_makeAll (library : Library) (apart : ∀ change ∈ changes, change.name ≠ name) :
    (library.makeAll changes).lookup? name = library.lookup? name := by
  induction changes generalizing library with
  | nil => rfl
  | cons change rest ih =>
    obtain ⟨first, later⟩ := List.forall_mem_cons.1 apart
    rw [makeAll, List.foldl_cons, ← makeAll, ih _ later, library.lookup?_make first]

/-- Commands that define and remove no name that an expression leads to keep what it is told. -/
theorem agrees_obeyAll [Regex.Engine] {commands : List Command}
    (unreached : ∀ command ∈ commands, ∀ change ∈ command.changes,
      ¬ library.Reach (Token.patterns expression) change.name) :
    library.Agrees (library.obeyAll commands) expression := by
  intro name reach
  rw [obeyAll_eq_makeAll]
  refine library.lookup?_makeAll fun change member same => ?_
  obtain ⟨command, given, made⟩ := List.mem_flatMap.1 member
  exact unreached command given change made (same ▸ reach)

/-- No expression can tell apart libraries that answer alike about the names that it leads to,
    whatever else they define; so it does not notice commands that define, replace or remove other
    names. -/
theorem indistinct_unreached [Regex.Engine] (library : Library) (expression : String) :
    (∀ other, library.Agrees other expression → library.Indistinct other expression) ∧
    ∀ commands : List Command, (∀ command ∈ commands, ∀ change ∈ command.changes,
        ¬ library.Reach (Token.patterns expression) change.name) →
      library.Indistinct (library.obeyAll commands) expression :=
  ⟨fun _ => Agrees.indistinct, fun _ unreached => (agrees_obeyAll unreached).indistinct⟩

theorem eq_of_reach_letters (reach : letters.Reach (Token.patterns "%{A:x}") name) :
    name = "A" := by
  have split : Token.first? "%{A:x}".toList = some ⟨[], ⟨"A", some "x", none⟩, []⟩ := by decide
  have all : Token.all "%{A:x}" = [⟨"A", some "x", none⟩] := by
    show Token.tokens _ = _
    rw [Token.tokens_of_some split, Token.tokens_of_none rfl]
  have plain : Token.all "a" = [] := Token.tokens_of_none rfl
  rw [Token.patterns, all] at reach
  refine List.mem_singleton.1 (mem_of_reach_leaves (fun root member body found => ?_) reach)
  obtain rfl := List.mem_singleton.1 member
  obtain rfl : "a" = body := by simpa [letters, lookup?_insert] using found
  rw [Token.patterns, plain]
  rfl

/-- The letter is found alike, with and without the built-in definitions, and before and after
    another letter has been defined. -/
theorem indistinct_letters :
    letters.lookup? "INT" = none ∧ { letters with builtin := true }.lookup? "INT" ≠ none ∧
    letters.Indistinct { letters with builtin := true } "%{A:x}" ∧
    (letters.obeyAll [.define "B" "b"]).lookup? "B" = some "b" ∧
    letters.Indistinct (letters.obeyAll [.define "B" "b"]) "%{A:x}" := by
  obtain ⟨libraries, commands⟩ := indistinct_unreached letters "%{A:x}"
  refine ⟨by decide, by decide +kernel, libraries _ ?_, by decide, commands _ ?_⟩
  · intro name reach
    rw [eq_of_reach_letters reach]
    rfl
  · intro command given change made reach
    obtain rfl := List.mem_singleton.1 given
    obtain rfl := List.mem_singleton.1 made
    exact absurd (eq_of_reach_letters reach) (by decide)

end Library

end LogSift
