import LogSift.Library.Command
import LogSift.Proofs.Listed
import Mathlib.Data.List.DropRight
import Mathlib.Data.List.ReduceOption

/-!
What the lines of a listing say. A line is blank, holds a remark, or defines a name, and it is read as
what it says (`says_iff`). A listing is refused if and only if one of its lines says nothing of this, and
the first such line is the error; otherwise the definitions of the lines are put over those of the
library (`obey_loadListing`).
-/

namespace LogSift

open Unicode (isBlank)

namespace Listing

/-- What a line says that does not end with a carriage return: no definition where it is blank or holds
    a remark, or else one. Blank in front does not count; a body reaches to the end of the line. -/
inductive Says : List Char → Option (String × String) → Prop where
  | blank {indent : List Char} (blank : ∀ c ∈ indent, isBlank c = true) : Says indent none
  | remark {indent rest : List Char} (blank : ∀ c ∈ indent, isBlank c = true) :
      Says (indent ++ '#' :: rest) none
  | definition {indent gap rest : List Char} {name : String} {first : Char}
      (blank : ∀ c ∈ indent, isBlank c = true) (named : Token.IsRun isNameChar name)
      (parted : gap ≠ []) (gapBlank : ∀ c ∈ gap, isBlank c = true) (visible : isBlank first = false) :
      Says (indent ++ (name.toList ++ gap ++ first :: rest)) (some (name, .ofList (first :: rest)))

/-- The lines of a listing, without the carriage returns that they end with. -/
def contents (text : String) : List (List Char) :=
  (text.toList.splitOn '\n').map (List.rdropWhile (· == '\r'))

/-- A text with a carriage return before every newline. -/
def withReturns (text : String) : String :=
  .ofList (text.toList.flatMap fun c => if c = '\n' then ['\r', '\n'] else [c])

variable {c first : Char} {line gap rest : List Char} {lines before later : List (List Char)}
  {number : Nat} {name body text : String} {entry : Option (String × String)}
  {entries : List (Option (String × String))}

/-! ### Lines -/

theorem isNameChar_of_isBlank (blank : isBlank c = true) : isNameChar c = false := by
  have none : ∀ n ∈ Unicode.blanks, isNameChar (Char.ofNat n) = false := by decide +kernel
  simpa using none c.toNat (Unicode.mem_blanks blank)

theorem isBlank_of_isNameChar (allowed : isNameChar c = true) : isBlank c = false := by
  by_contra blank
  rw [Bool.not_eq_false] at blank
  exact Bool.false_ne_true ((isNameChar_of_isBlank blank).symm.trans allowed)

theorem exists_cons_of_isRun (named : Token.IsRun isNameChar name) :
    ∃ c more, name.toList = c :: more ∧ isNameChar c = true := by
  obtain ⟨some, allowed⟩ := named
  obtain ⟨c, more, spelled⟩ : ∃ c more, name.toList = c :: more :=
    List.exists_cons_of_ne_nil (by simpa using some)
  exact ⟨c, more, spelled, allowed c (by simp [spelled])⟩

/-- A definition is read as it is written. -/
theorem readTrimmed_definition (named : Token.IsRun isNameChar name) (parted : gap ≠ [])
    (gapBlank : ∀ c ∈ gap, isBlank c = true) (visible : isBlank first = false) :
    readTrimmed (name.toList ++ gap ++ first :: rest) =
      .definition name (.ofList (first :: rest)) := by
  obtain ⟨c, more, spelled, starts⟩ := exists_cons_of_isRun named
  obtain ⟨d, gap, rfl⟩ := List.exists_cons_of_ne_nil parted
  have noRemark : c ≠ '#' := by
    rintro rfl
    exact absurd starts (by decide)
  have inName : ∀ c ∈ name.toList, (!isBlank c) = true := by
    intro c member
    rw [isBlank_of_isNameChar (named.2 c member)]
    rfl
  have gapFirst : isBlank d = true := gapBlank d List.mem_cons_self
  have taken : (name.toList ++ d :: gap ++ first :: rest).takeWhile (fun c => !isBlank c) =
      name.toList := by
    rw [List.append_assoc, List.takeWhile_append_of_pos inName, List.cons_append,
      List.takeWhile_cons_of_neg (by simp [gapFirst]), List.append_nil]
  have dropped : (name.toList ++ d :: gap ++ first :: rest).dropWhile (fun c => !isBlank c) =
      d :: gap ++ first :: rest := by
    rw [List.append_assoc, List.dropWhile_append_of_pos inName, List.cons_append,
      List.dropWhile_cons_of_neg (by simp [gapFirst])]
  have left : (d :: gap ++ first :: rest).dropWhile isBlank = first :: rest := by
    rw [List.dropWhile_append_of_pos gapBlank, List.dropWhile_cons_of_neg (by simp [visible])]
  unfold readTrimmed
  split
  · next empty => simp at empty
  · next remark =>
    rw [spelled, List.append_assoc, List.cons_append] at remark
    exact absurd (List.cons_eq_cons.1 remark).1 noRemark
  · have all : name.toList.all isNameChar = true := List.all_eq_true.2 named.2
    dsimp only
    rw [taken, dropped, left, all, String.ofList_toList]
    rfl

/-- What is read as a definition is written as one. -/
theorem eq_of_readTrimmed (start : ∀ c ∈ line.head?, isBlank c = false)
    (read : readTrimmed line = .definition name body) : ∃ gap first rest,
    line = name.toList ++ gap ++ first :: rest ∧ body = .ofList (first :: rest) ∧ gap ≠ [] ∧
      (∀ c ∈ gap, isBlank c = true) ∧ isBlank first = false := by
  unfold readTrimmed at read
  split at read
  · cases read
  · cases read
  · dsimp only at read
    split at read
    · cases read
    · next kept =>
      cases read
      generalize behind : line.dropWhile (fun c => !isBlank c) = behindName at kept
      simp only [Bool.or_eq_true, List.isEmpty_iff, not_or] at kept
      obtain ⟨first, rest, left⟩ := List.exists_cons_of_ne_nil kept.1
      have visible := List.head?_dropWhile_not isBlank behindName
      rw [left] at visible
      refine ⟨behindName.takeWhile isBlank, first, rest, ?_, by rw [left], ?_, ?_, visible⟩
      · rw [String.toList_ofList, List.append_assoc, ← left, List.takeWhile_append_dropWhile, ← behind,
          List.takeWhile_append_dropWhile]
      · -- The name ends before a blank, since something is left behind it.
        intro none
        have stop := List.head?_dropWhile_not (fun c => !isBlank c) line
        rw [behind] at stop
        cases behindName with
        | nil => simp at left
        | cons d more => simp_all
      · exact fun c => List.mem_takeWhile_imp

/-- The first character of a line without the blank in front is visible. -/
theorem isBlank_head?_dropWhile (line : List Char) :
    ∀ c ∈ (line.dropWhile isBlank).head?, isBlank c = false := by
  intro c first
  have visible := List.head?_dropWhile_not isBlank line
  rwa [Option.mem_def.1 first] at visible

/-- What is made of a line that has been read: a malformed one says nothing. -/
def told? : Line → Option (Option (String × String))
  | .skipped => some none
  | .definition name body => some (some (name, body))
  | .malformed => none

/-- A line says what it is read as. -/
theorem says_iff : Says line entry ↔ told? (readTrimmed (line.dropWhile isBlank)) = some entry := by
  constructor
  · intro said
    cases said with
    | blank blank =>
      rw [List.dropWhile_eq_nil_iff.2 blank]
      rfl
    | remark blank =>
      rw [List.dropWhile_append_of_pos blank, List.dropWhile_cons_of_neg (by decide)]
      rfl
    | @definition indent gap rest name first blank named parted gapBlank visible =>
      have start : (name.toList ++ gap ++ first :: rest).dropWhile isBlank =
          name.toList ++ gap ++ first :: rest := by
        obtain ⟨c, more, spelled, starts⟩ := exists_cons_of_isRun named
        rw [spelled, List.cons_append, List.cons_append,
          List.dropWhile_cons_of_neg (by simp [isBlank_of_isNameChar starts])]
      rw [List.dropWhile_append_of_pos blank, start,
        readTrimmed_definition named parted gapBlank visible]
      rfl
  · intro told
    have blank : ∀ c ∈ line.takeWhile isBlank, isBlank c = true := fun c => List.mem_takeWhile_imp
    have whole : line.takeWhile isBlank ++ line.dropWhile isBlank = line :=
      List.takeWhile_append_dropWhile
    have start := isBlank_head?_dropWhile line
    generalize line.dropWhile isBlank = trimmed at told whole start
    rw [← whole]
    cases read : readTrimmed trimmed with
    | skipped =>
      rw [read] at told
      cases told
      unfold readTrimmed at read
      split at read
      · rw [List.append_nil]
        exact .blank blank
      · exact .remark blank
      · dsimp only at read
        split at read <;> cases read
    | definition name body =>
      rw [read] at told
      cases told
      obtain ⟨gap, first, rest, rfl, rfl, parted, gapBlank, visible⟩ := eq_of_readTrimmed start read
      exact .definition blank (isRun_of_readTrimmed start read) parted gapBlank visible
    | malformed =>
      rw [read] at told
      cases told

instance : Decidable (Says line entry) := decidable_of_iff _ says_iff.symm

example : Says "  PAIR\t%{A} -  ".toList (some ("PAIR", "%{A} -  ")) := by decide

/-! ### Listings -/

theorem lines_newline (rest : List Char) : Listing.lines ('\n' :: rest) = [] :: Listing.lines rest := rfl

theorem lines_ne_nil (cs : List Char) : Listing.lines cs ≠ [] := by
  cases cs with
  | nil => simp [Listing.lines]
  | cons c rest =>
    rw [Listing.lines]
    split
    · simp
    · split <;> simp

theorem lines_cons (other : c ≠ '\n') :
    Listing.lines (c :: rest) = (Listing.lines rest).modifyHead (c :: ·) := by
  obtain ⟨first, more, split⟩ := List.exists_cons_of_ne_nil (lines_ne_nil rest)
  rw [Listing.lines, if_neg other, split]
  rfl

theorem lines_eq_splitOn (cs : List Char) : Listing.lines cs = cs.splitOn '\n' := by
  induction cs with
  | nil => rfl
  | cons c rest ih =>
    rw [List.splitOn_eq_splitOnP, List.splitOnP_cons_eq_if_modifyHead, ← List.splitOn_eq_splitOnP, ← ih]
    by_cases newline : c = '\n'
    · simp [newline, lines_newline]
    · simp [newline, lines_cons]

theorem trimReturns_trimReturns (line : List Char) :
    trimReturns (trimReturns line) = trimReturns line :=
  List.rdropWhile_idempotent (· == '\r') line

/-- The carriage returns at the ends of lines do not matter. -/
theorem readLines_map_trimReturns (number : Nat) (lines : List (List Char)) :
    readLines number (lines.map trimReturns) = readLines number lines := by
  induction lines generalizing number with
  | nil => rfl
  | cons line rest ih =>
    rw [List.map_cons, readLines, readLines, readLine, trimReturns_trimReturns, ← readLine, ih]

theorem read_eq_readLines (text : String) : Listing.read text = readLines 1 (contents text) := by
  rw [Listing.read, lines_eq_splitOn, ← readLines_map_trimReturns]
  rfl

theorem trimReturns_of_mem_contents (member : line ∈ contents text) : trimReturns line = line := by
  obtain ⟨raw, _, rfl⟩ := List.mem_map.1 member
  exact trimReturns_trimReturns raw

/-- A line that says something adds what it says. -/
theorem readLines_of_said (trimmed : trimReturns line = line) (said : Says line entry) :
    readLines number (line :: lines) = (readLines (number + 1) lines).map (entry.toList ++ ·) := by
  have told := says_iff.1 said
  rw [readLines, readLine, trimmed]
  cases read : readTrimmed (line.dropWhile isBlank) with
  | skipped =>
    rw [read] at told
    cases told
    cases readLines (number + 1) lines <;> rfl
  | definition name body =>
    rw [read] at told
    cases told
    rfl
  | malformed =>
    rw [read] at told
    cases told

/-- A line that says nothing is the error. -/
theorem readLines_of_unsaid (trimmed : trimReturns line = line) (unsaid : ∀ entry, ¬ Says line entry) :
    readLines number (line :: lines) = .error (.invalidDefinition number (.ofList line)) := by
  rw [readLines, readLine, trimmed]
  cases read : readTrimmed (line.dropWhile isBlank) with
  | skipped => exact absurd (says_iff.2 (by rw [read]; rfl)) (unsaid none)
  | definition name body => exact absurd (says_iff.2 (by rw [read]; rfl)) (unsaid (some (name, body)))
  | malformed => rfl

theorem readLines_of_forall₂ (trimmed : ∀ line ∈ lines, trimReturns line = line)
    (said : List.Forall₂ Says lines entries) :
    readLines number lines = .ok entries.reduceOption := by
  induction said generalizing number with
  | nil => rfl
  | @cons line entry lines entries first _ ih =>
    obtain ⟨here, trimmed⟩ := List.forall_mem_cons.1 trimmed
    rw [readLines_of_said here first, ih trimmed]
    cases entry <;> rfl

/-- The first line that says nothing is the error. -/
theorem readLines_of_first (trimmed : ∀ other ∈ before ++ line :: later, trimReturns other = other)
    (said : ∀ earlier ∈ before, ∃ entry, Says earlier entry) (unsaid : ∀ entry, ¬ Says line entry) :
    readLines number (before ++ line :: later) =
      .error (.invalidDefinition (number + before.length) (.ofList line)) := by
  induction before generalizing number with
  | nil => exact readLines_of_unsaid (trimmed line (by simp)) unsaid
  | cons first before ih =>
    obtain ⟨⟨entry, starts⟩, said⟩ := List.forall_mem_cons.1 said
    rw [List.cons_append] at trimmed ⊢
    obtain ⟨here, trimmed⟩ := List.forall_mem_cons.1 trimmed
    rw [readLines_of_said here starts, ih trimmed said, List.length_cons,
      Nat.add_comm before.length, Nat.add_assoc]
    rfl

/-- A listing is accepted if and only if all its lines say something. -/
theorem exists_readLines_iff (number : Nat) (trimmed : ∀ line ∈ lines, trimReturns line = line) :
    (∃ definitions, readLines number lines = .ok definitions) ↔
      ∀ line ∈ lines, ∃ entry, Says line entry := by
  induction lines generalizing number with
  | nil => simp [readLines]
  | cons line rest ih =>
    obtain ⟨here, trimmed⟩ := List.forall_mem_cons.1 trimmed
    rw [List.forall_mem_cons, ← ih (number + 1) trimmed]
    by_cases said : ∃ entry, Says line entry
    · obtain ⟨entry, first⟩ := said
      rw [readLines_of_said here first]
      refine Iff.trans ?_ (and_iff_right ⟨entry, first⟩).symm
      cases readLines (number + 1) rest <;> simp [Except.map]
    · rw [readLines_of_unsaid here (not_exists.1 said)]
      simp [said]

/-! ### Carriage returns before newlines -/

/-- Carriage returns at the end of a line go, whatever is put in front of it. -/
theorem trimReturns_cons (c : Char) (line : List Char) :
    trimReturns (c :: trimReturns line) = trimReturns (c :: line) := by
  unfold trimReturns
  rw [List.reverse_cons, List.reverse_cons, List.reverse_reverse, List.dropWhile_append,
    List.dropWhile_append, List.dropWhile_idempotent]

theorem map_trimReturns_withReturns (cs : List Char) :
    (Listing.lines (cs.flatMap fun c => if c = '\n' then ['\r', '\n'] else [c])).map trimReturns =
      (Listing.lines cs).map trimReturns := by
  induction cs with
  | nil => rfl
  | cons c rest ih =>
    rw [List.flatMap_cons]
    by_cases newline : c = '\n'
    · rw [if_pos newline, newline, lines_newline, List.map_cons, ← ih]
      rfl
    · -- Only the first line is longer, and it is trimmed as without the character in front.
      have push (lines : List (List Char)) : (lines.modifyHead (c :: ·)).map trimReturns =
          (lines.map trimReturns).modifyHead fun line => trimReturns (c :: line) := by
        cases lines <;> simp [trimReturns_cons]
      rw [if_neg newline, List.singleton_append, lines_cons newline, lines_cons newline, push, push, ih]

theorem contents_withReturns (text : String) : contents (withReturns text) = contents text := by
  rw [contents, contents, ← lines_eq_splitOn, ← lines_eq_splitOn, withReturns, String.toList_ofList]
  exact map_trimReturns_withReturns text.toList

end Listing

namespace Library

open Listing (Says contents withReturns)

/-- Definitions have been put over those of a library: of a name, the last one counts, and names
    without any keep what they had. -/
structure Overlaid (library : Library) (definitions : List (String × String)) (after : Library) :
    Prop where
  own : ∀ name, after.own[name]? = (definitions.reverse.lookup name).or library.own[name]?
  lookup : ∀ name, after.lookup? name = (definitions.reverse.lookup name).or (library.lookup? name)
  switch : after.builtin = library.builtin

theorem overlaid_defineAll (library : Library) (definitions : List (String × String)) :
    library.Overlaid definitions (library.defineAll definitions) :=
  ⟨library.own_defineAll definitions, library.lookup?_defineAll definitions,
    library.builtin_defineAll definitions⟩

/-- How a listing is loaded once its lines have been read. -/
theorem obey_loadListing_eq [Regex.Engine] (library : Library) (text : String) :
    library.obey (.loadListing text) =
      match Listing.readLines 1 (contents text) with
      | .ok definitions => (.ok (.count definitions.length), library.defineAll definitions)
      | .error e => (.error e, library) := by
  rw [obey, loadListing, Listing.read_eq_readLines]
  cases Listing.readLines 1 (contents text) <;> rfl

/-- A listing is accepted if and only if every line says something. Then the definitions that its
    lines say are put over those of the library, and their number is the answer. Otherwise the first
    line that says nothing is the error, with its number, and the library stays as it is. Carriage
    returns before newlines make no difference. -/
theorem obey_loadListing [Regex.Engine] (library : Library) (text : String) :
    ((∃ count, (library.obey (.loadListing text)).1 = .ok (.count count)) ↔
      ∀ line ∈ contents text, ∃ entry, Says line entry) ∧
    (∀ entries, List.Forall₂ Says (contents text) entries → ∃ after,
      library.obey (.loadListing text) = (.ok (.count entries.reduceOption.length), after) ∧
      library.Overlaid entries.reduceOption after) ∧
    (∀ before line later, contents text = before ++ line :: later →
      (∀ earlier ∈ before, ∃ entry, Says earlier entry) → (∀ entry, ¬ Says line entry) →
      library.obey (.loadListing text) =
        (.error (.invalidDefinition (before.length + 1) (.ofList line)), library)) ∧
    library.obey (.loadListing (withReturns text)) = library.obey (.loadListing text) := by
  have trimmed : ∀ line ∈ contents text, Listing.trimReturns line = line :=
    fun line => Listing.trimReturns_of_mem_contents
  refine ⟨?_, ?_, ?_, ?_⟩
  · rw [obey_loadListing_eq, ← Listing.exists_readLines_iff 1 trimmed]
    cases Listing.readLines 1 (contents text) <;> simp
  · intro entries said
    refine ⟨library.defineAll entries.reduceOption, ?_, overlaid_defineAll ..⟩
    rw [obey_loadListing_eq, Listing.readLines_of_forall₂ trimmed said]
  · intro before line later split said unsaid
    rw [split] at trimmed
    rw [obey_loadListing_eq, split, Listing.readLines_of_first trimmed said unsaid, Nat.add_comm]
  · rw [obey_loadListing_eq, obey_loadListing_eq, Listing.contents_withReturns]

end Library
end LogSift
