import LogSift.Field.Placeholder
import LogSift.Proofs.Heads
import LogSift.Proofs.Usable
import LogSift.Regex.Footprint

/-!
Texts in the place of dots. The check of a text puts it into the name of a group in a regular expression
and asks that the expression has a group of that name. The names of groups hold no closing angle bracket,
so a text that ends the name early passes with no regular expression that it may go on with
(`isGroupName_iff`), and the check comes down to the characters of the text (`checkPlaceholder_exact`).
-/

namespace LogSift.FieldName

open Regex.Reader (isName isNameChar fielded)

/-- A character that may stand for a dot, or beside others that do. -/
def StandsIn (c : Char) : Prop :=
  c = '_' ∨ c = '[' ∨ c = ']' ∨ Unicode.isAlphabetic c = true ∨ Unicode.isNumeric c = true

/-- A text that may stand for a dot. -/
structure Usable (text : String) : Prop where
  nonempty : text ≠ ""
  characters : ∀ c ∈ text.toList, StandsIn c

variable {name text : String} {c : Char}

/-! ### Names of groups -/

theorem toList_group (name : String) : ("(?P<" ++ name ++ ">)").toList = fielded name.toList [] := by
  simp [fielded]

/-- A proper name is that of the group it is put into. -/
theorem isGroupName_of_isName [Regex.Engine]
    (proper : isName name.toList = true) : isGroupName name = true := by
  have read := Regex.Reader.read_fielded proper (Regex.bracket_not_mem_of_isName proper)
    (List.forall_mem_nil _)
  rw [String.ofList_toList, ← toList_group] at read
  have fits := Regex.Engine.fits_group name
  have names : Regex.groupNames [(1, some name)] = #[none, some name] := rfl
  have regex := Regex.ofString?_eq_ok_iff.2 ⟨_, read, fits, rfl⟩
  simp [isGroupName, regex, Regex.Expr.groups, Regex.Reader.groups_literal, names]

/-- A name is that of the group it is put into if and only if it is proper: what ends the name early ends
    the name of the group as well. -/
theorem isGroupName_iff [Regex.Engine] : isGroupName name = true ↔ isName name.toList = true := by
  refine ⟨fun named => ?_, isGroupName_of_isName⟩
  unfold isGroupName at named
  split at named
  · next regex reads =>
    have member : some name ∈ regex.groups.toList := by simpa using named
    obtain ⟨apart, -⟩ := Regex.written_of_mem_groups reads member
    obtain ⟨expr, read, -⟩ := Regex.ofString?_eq_ok_iff.1 reads
    rw [toList_group] at read
    by_contra improper
    rw [Bool.not_eq_true] at improper
    by_cases nonempty : name.toList = []
    · rw [nonempty] at read
      cases read
    · rw [Regex.Reader.read_fielded_error nonempty improper apart] at read
      cases read
  · cases named

/-! ### The check -/

theorem isNameChar_iff_standsIn (noDot : c ≠ '.') : isNameChar c = true ↔ StandsIn c := by
  simp [isNameChar, StandsIn, Unicode.isAlphanumeric, noDot, or_assoc]

/-- No dot and no sign of a group stands for a dot. -/
theorem not_standsIn (sign : c ∈ ['.', '(', ')', '?', '<', '>']) : ¬ StandsIn c := by
  simp only [List.mem_cons, List.not_mem_nil, or_false] at sign
  rcases sign with rfl | rfl | rfl | rfl | rfl | rfl <;> unfold StandsIn <;> decide

theorem isName_probe (text : String) :
    isName (probe text).toList = true ↔ ∀ c ∈ text.toList, isNameChar c = true := by
  have front : Regex.Reader.isNameStart 'a' = true := by decide
  have back : isNameChar 'b' = true := by decide
  simp [probe, isName, front, back]

/-- What is asked of a text comes down to its characters. -/
theorem usable_iff [Regex.Engine] : Usable text ↔ text ≠ "" ∧ '.' ∉ text.toList ∧
    isGroupName (probe text) = true := by
  rw [isGroupName_iff, isName_probe]
  constructor
  · rintro ⟨nonempty, characters⟩
    have noDot : '.' ∉ text.toList := fun member =>
      not_standsIn List.mem_cons_self (characters _ member)
    refine ⟨nonempty, noDot, fun c member => ?_⟩
    exact (isNameChar_iff_standsIn (ne_of_mem_of_not_mem member noDot)).2 (characters c member)
  · rintro ⟨nonempty, noDot, characters⟩
    refine ⟨nonempty, fun c member => ?_⟩
    exact (isNameChar_iff_standsIn (ne_of_mem_of_not_mem member noDot)).1 (characters c member)

theorem checkPlaceholder_of_usable [Regex.Engine] (usable : Usable text) :
    checkPlaceholder text = .ok () := by
  obtain ⟨nonempty, noDot, named⟩ := usable_iff.1 usable
  simp [checkPlaceholder, nonempty, noDot, named]

theorem checkPlaceholder_of_not_usable [Regex.Engine] (unusable : ¬ Usable text) :
    checkPlaceholder text = .error (.invalidPlaceholder text) := by
  unfold checkPlaceholder
  refine if_pos ?_
  by_contra passes
  refine unusable (usable_iff.2 ?_)
  simpa [and_assoc] using passes

/-- What the check says of a text. -/
structure Checked [Regex.Engine] (text : String) : Prop where
  accepted : checkPlaceholder text = .ok () ↔ Usable text
  refused : checkPlaceholder text = .error (.invalidPlaceholder text) ↔
    ¬ Usable text
  /-- Signs of groups are not taken. -/
  signs : ∀ c ∈ ['(', ')', '?', '<', '>'], c ∈ text.toList →
    checkPlaceholder text = .error (.invalidPlaceholder text)
  /-- Where a text ends the name of the group early and goes on with what makes a regular expression, no
      group of that has the name. -/
  severed : '>' ∈ text.toList → ∀ regex,
    Regex.ofString? ("(?P<" ++ probe text ++ ">)") = .ok regex →
    some (probe text) ∉ regex.groups

/-- A text passes the check if and only if it is not empty and has only lines, brackets, letters and
    numbers, whatever it would make of the regular expression that it is put into. -/
theorem checkPlaceholder_exact [Regex.Engine] (text : String) : Checked text where
  accepted := by
    refine ⟨fun passes => ?_, checkPlaceholder_of_usable⟩
    by_contra unusable
    rw [checkPlaceholder_of_not_usable unusable] at passes
    cases passes
  refused := by
    refine ⟨fun fails usable => ?_, checkPlaceholder_of_not_usable⟩
    rw [checkPlaceholder_of_usable usable] at fails
    cases fails
  signs c sign member := by
    have foreign := not_standsIn (List.mem_cons_of_mem '.' sign)
    exact checkPlaceholder_of_not_usable fun usable => foreign (usable.characters c member)
  severed early regex reads named := by
    obtain ⟨apart, -⟩ := Regex.written_of_mem_groups reads (Array.mem_toList_iff.2 named)
    exact apart (by simp [probe, early])

/-- A text that goes on with another group makes a regular expression with two. -/
theorem checkPlaceholder_exact_grouped : ∃ regex,
    Regex.ofString? ("(?P<" ++ probe "x>)(?P<y" ++ ">)") = .ok regex ∧
    regex.groups = #[none, some "ax", some "yb"] ∧
    some (probe "x>)(?P<y") ∉ regex.groups ∧
    checkPlaceholder "x>)(?P<y" = .error (.invalidPlaceholder "x>)(?P<y") := by
  have reads : (Regex.ofString? ("(?P<" ++ probe "x>)(?P<y" ++ ">)")).toOption.map (·.groups) =
      some #[none, some "ax", some "yb"] := by decide +kernel
  have checked := checkPlaceholder_exact "x>)(?P<y"
  cases regex : Regex.ofString? ("(?P<" ++ probe "x>)(?P<y" ++ ">)") with
  | error e =>
    rw [regex] at reads
    cases reads
  | ok found =>
    rw [regex] at reads
    refine ⟨found, rfl, Option.some.inj reads, checked.severed (by decide) found regex, ?_⟩
    exact checked.signs '>' (by decide) (by decide)

end LogSift.FieldName
