import LogSift.Proofs.Declared

/-!
The groups that fill a field. Groups have numbers, in the order of the expression; one that stands for a
field fills it if it took part in the match and matched something. The raw reading of an input has, for
every field, what the filling group with the highest number matched, and the groups that the typed
reading converts are the same (`parse_tells`).
-/

namespace LogSift

open Std (TreeMap)

namespace Matcher

variable {α β : Type} {matcher : Matcher} {groups : List (Option (List α))} {read : List α → β}
  {input raw : List α} {field : String}

/-- The group with a number stands for a field, took part in the match and matched something. -/
def Fills (matcher : Matcher) (groups : List (Option (List α))) (field : String) (number : Nat)
    (raw : List α) : Prop :=
  (∃ hint, matcher.captures[number]? = some (some ⟨field, hint⟩)) ∧
    groups[number]? = some (some raw) ∧ raw ≠ []

/-- What the group with the highest number of those that fill a field matched. -/
def FillsLast (matcher : Matcher) (groups : List (Option (List α))) (field : String)
    (raw : List α) : Prop :=
  ∃ number, matcher.Fills groups field number raw ∧
    ∀ other text, matcher.Fills groups field other text → other ≤ number

/-- A table tells what the last filling group of every field matched, which is a piece of the input
    and not empty; its fields are among those of the matcher, and the winning groups, of which each
    field has one at most, tell the same. Where there is no match, the table is empty. -/
structure Tells (matcher : Matcher) (input : List α) (found : Option (List (Option (List α))))
    (read : List α → β) (table : TreeMap String β) : Prop where
  last : ∀ (field : String) (value : β), table[field]? = some value ↔
    ∃ groups raw, found = some groups ∧ matcher.FillsLast groups field raw ∧ read raw = value
  pieces : ∀ (field : String) (value : β), table[field]? = some value →
    ∃ raw, raw <:+: input ∧ raw ≠ [] ∧ read raw = value
  known : ∀ field ∈ table, field ∈ matcher.fieldNames
  distinct : ∀ groups, found = some groups → ((matcher.winners groups).map (·.1.field)).Nodup
  winners : ∀ groups, found = some groups → ∀ (field : String) (value : β), table[field]? = some value ↔
    ∃ won ∈ matcher.winners groups, won.1.field = field ∧ read won.2 = value

/-! ### The last filling group -/

theorem claim?_of_fills {number : Nat} (fills : matcher.Fills groups field number raw) :
    ∃ pair, (matcher.captures.zip groups)[number]? = some pair ∧
      ∃ won, claim? field pair = some won := by
  obtain ⟨⟨hint, stands⟩, matched, some⟩ := fills
  exact ⟨_, List.getElem?_zip_eq_some.2 ⟨stands, matched⟩, _, claim?_eq_some.2 ⟨rfl, rfl, some⟩⟩

/-- The group that wins a field is the filling one with the highest number. -/
theorem fillsLast_of_winner? {capture : Capture}
    (won : matcher.winner? groups field = some (capture, raw)) :
    matcher.FillsLast groups field raw := by
  obtain ⟨before, pair, after, split, claimed, none⟩ := findSome?_reverse_eq_some_iff.1 won
  obtain ⟨rfl, rfl, some⟩ := claim?_eq_some.1 claimed
  have here : (matcher.captures.zip groups)[before.length]? =
      Option.some (Option.some capture, Option.some raw) := by simp [split]
  obtain ⟨stands, matched⟩ := List.getElem?_zip_eq_some.1 here
  refine ⟨before.length, ⟨⟨capture.hint, stands⟩, matched, some⟩, fun other text fills => ?_⟩
  -- A filling group with a higher number would be found before this one.
  by_contra behind
  obtain ⟨pair, there, won, claims⟩ := claim?_of_fills fills
  obtain ⟨k, index⟩ : ∃ k, other - before.length = k + 1 :=
    ⟨other - before.length - 1, by omega⟩
  rw [split, List.getElem?_append_right (by omega), index, List.getElem?_cons_succ] at there
  cases claims.symm.trans (none pair (List.mem_of_getElem? there))

theorem exists_winner? {number : Nat} (fills : matcher.Fills groups field number raw) :
    ∃ won, matcher.winner? groups field = some won := by
  obtain ⟨pair, there, won, claims⟩ := claim?_of_fills fills
  rw [← Option.isSome_iff_exists, winner?, List.findSome?_isSome_iff]
  exact ⟨pair, List.mem_reverse.2 (List.mem_of_getElem? there), by rw [claims]; rfl⟩

theorem FillsLast.unique {other : List α} (fills : matcher.FillsLast groups field raw)
    (fills' : matcher.FillsLast groups field other) : raw = other := by
  obtain ⟨number, fills, last⟩ := fills
  obtain ⟨number', fills', last'⟩ := fills'
  obtain rfl : number = number' := Nat.le_antisymm (last' _ _ fills) (last _ _ fills')
  exact Option.some.inj (Option.some.inj (fills.2.1.symm.trans fills'.2.1))

theorem winner?_iff_fillsLast : (∃ capture, matcher.winner? groups field = some (capture, raw)) ↔
    matcher.FillsLast groups field raw := by
  constructor
  · rintro ⟨capture, won⟩
    exact fillsLast_of_winner? won
  · intro fillsLast
    have ⟨_, fills, _⟩ := fillsLast
    obtain ⟨⟨capture, other⟩, won⟩ := exists_winner? fills
    obtain rfl := fillsLast.unique (fillsLast_of_winner? won)
    exact ⟨capture, won⟩

/-! ### Tables -/

theorem getElem?_fields_iff {value : β} : (matcher.fields groups read)[field]? = some value ↔
    ∃ raw, matcher.FillsLast groups field raw ∧ read raw = value := by
  simp only [getElem?_fields, Option.map_eq_some_iff, ← winner?_iff_fillsLast]
  constructor
  · rintro ⟨⟨capture, raw⟩, won, same⟩
    exact ⟨raw, ⟨capture, won⟩, same⟩
  · rintro ⟨raw, ⟨capture, won⟩, same⟩
    exact ⟨(capture, raw), won, same⟩

theorem tells_none : matcher.Tells input none read ∅ := by
  refine ⟨?_, ?_, ?_, ?_, ?_⟩
  · simp
  · simp
  · simp
  · nofun
  · nofun

/-- Where the groups are pieces of an input, the raw reading tells what the last filling ones
    matched. -/
theorem tells_fields (inside : ∀ raw, some raw ∈ groups → raw <:+: input) :
    matcher.Tells input (some groups) read (matcher.fields groups read) := by
  refine ⟨fun field value => ?_, fun field value told => ?_, fun field told => ?_, ?_, ?_⟩
  · simp [getElem?_fields_iff]
  · obtain ⟨raw, ⟨number, ⟨_, matched, some⟩, _⟩, same⟩ := getElem?_fields_iff.1 told
    exact ⟨raw, inside raw (List.mem_of_getElem? matched), some, same⟩
  · obtain ⟨won, member, rfl⟩ := mem_fields.1 told
    exact mem_fieldNames.2 ⟨won.1, (mem_of_winner? (mem_winners.1 member)).1, rfl⟩
  · rintro _ ⟨⟩
    exact nodup_winners matcher groups
  · rintro _ ⟨⟩ field value
    rw [getElem?_fields, Option.map_eq_some_iff]
    constructor
    · rintro ⟨won, found, same⟩
      have name := field_of_winner? found
      exact ⟨won, mem_winners.2 (name ▸ found), name, same⟩
    · rintro ⟨won, member, rfl, same⟩
      exact ⟨won, mem_winners.1 member, same⟩

theorem extract_isInfix (xs : List α) (start stop : Nat) :
    (xs.toArray.extract start stop).toList <:+: xs := by
  rw [Array.toList_extract, List.extract_eq_take_drop]
  exact (List.take_prefix ..).isInfix.trans (List.drop_suffix ..).isInfix

/-- The groups of a match are pieces of what was searched, wherever their spans lie. -/
theorem isInfix_of_mem_pieces {xs : List α} {spans : List (Option Regex.Span)}
    (member : some raw ∈ spans.map (·.map fun (start, stop) =>
      (xs.toArray.extract start stop).toList)) : raw <:+: xs := by
  obtain ⟨span, _, taken⟩ := List.mem_map.1 member
  obtain ⟨_, _, rfl⟩ := Option.map_eq_some_iff.1 taken
  exact extract_isInfix ..

/-- The raw reading of every text and of all bytes tells what the last filling groups matched. -/
theorem parse_tells (matcher : Matcher) :
    (∀ text : String, matcher.Tells text.toList (matcher.regex.matchText? text) String.ofList
      (matcher.parse text).result) ∧
    ∀ bytes : List UInt8, matcher.Tells bytes (matcher.regex.matchBytes? bytes) id
      (matcher.parseBytes bytes).result := by
  refine ⟨fun text => ?_, fun bytes => ?_⟩
  · cases found : matcher.regex.matchText? text with
    | none =>
      simp only [result_parse, found]
      exact tells_none
    | some groups =>
      simp only [result_parse, found]
      obtain ⟨spans, -, rfl⟩ := Option.map_eq_some_iff.1 found
      exact tells_fields fun raw => isInfix_of_mem_pieces
  · cases found : matcher.regex.matchBytes? bytes with
    | none =>
      simp only [result_parseBytes, found]
      exact tells_none
    | some groups =>
      simp only [result_parseBytes, found]
      obtain ⟨spans, -, rfl⟩ := Option.map_eq_some_iff.1 found
      exact tells_fields fun raw => isInfix_of_mem_pieces

end Matcher

end LogSift
