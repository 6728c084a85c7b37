import LogSift.Proofs.Classified
import LogSift.Proofs.Filled
import LogSift.Proofs.Listed
import Mathlib.Data.List.ReduceOption

/-!
The error of a typed reading. Winning groups are converted in the order in which their fields were
first filled (`fields_winners`), so of the fields that cannot be converted, the one that was filled
first is to blame (`parseTyped_blames`). The fields of a matcher are in the order of their first
groups, whether these take part in a match or not; where a later group fills a field, another field
that comes after it in this order can be filled first, and is blamed (`blamed_out_of_order`).
-/

namespace LogSift

open Std (TreeMap)

theorem idxOf_le_of_getElem? {α : Type} [BEq α] [LawfulBEq α] {xs : List α} {x : α} {i : Nat}
    (here : xs[i]? = some x) : xs.idxOf x ≤ i := by
  by_contra later
  obtain ⟨_, same⟩ := List.getElem?_eq_some_iff.1 here
  have passed := List.not_of_lt_findIdx (Nat.lt_of_not_le later)
  simp [same] at passed

theorem eraseDups_concat {α : Type} [DecidableEq α] (xs : List α) (x : α) :
    (xs ++ [x]).eraseDups = if x ∈ xs then xs.eraseDups else xs.eraseDups ++ [x] := by
  rw [List.eraseDups_append]
  by_cases known : x ∈ xs
  · simp [known, List.removeAll]
  · simp [known, List.removeAll, List.eraseDups_cons]

/-- Once repetitions are left out, things are in the order in which they first come. -/
theorem pairwise_idxOf_eraseDups {α : Type} [DecidableEq α] (xs : List (Option α)) :
    xs.reduceOption.eraseDups.Pairwise fun a b => xs.idxOf (some a) < xs.idxOf (some b) := by
  induction xs using List.reverseRecOn with
  | nil => simp
  | append_singleton xs x ih =>
    have kept : ∀ a ∈ xs.reduceOption.eraseDups,
        (xs ++ [x]).idxOf (some a) = xs.idxOf (some a) ∧ xs.idxOf (some a) < xs.length := by
      intro a member
      have before := List.reduceOption_mem_iff.1 (List.mem_eraseDups.1 member)
      exact ⟨List.idxOf_append_of_mem before, List.idxOf_lt_length_iff.2 before⟩
    have early : xs.reduceOption.eraseDups.Pairwise fun a b =>
        (xs ++ [x]).idxOf (some a) < (xs ++ [x]).idxOf (some b) :=
      ih.imp_of_mem fun here there less => by rwa [(kept _ here).1, (kept _ there).1]
    cases x with
    | none => simpa [List.reduceOption_append] using early
    | some x =>
      rw [List.reduceOption_append, List.reduceOption_singleton, Option.toList_some,
        eraseDups_concat]
      split
      · exact early
      · next fresh =>
        rw [List.reduceOption_mem_iff] at fresh
        refine List.pairwise_append.2 ⟨early, List.pairwise_singleton .., fun a member b last => ?_⟩
        obtain rfl := List.mem_singleton.1 last
        rw [(kept a member).1, List.idxOf_append_of_notMem fresh]
        exact Nat.lt_add_right _ (kept a member).2

/-- So of two things, the one that is listed first is the one that comes first. -/
theorem idxOf_eraseDups_le_iff {α : Type} [DecidableEq α] {xs : List (Option α)} {a b : α}
    (here : some a ∈ xs) (there : some b ∈ xs) :
    xs.reduceOption.eraseDups.idxOf a ≤ xs.reduceOption.eraseDups.idxOf b ↔
      xs.idxOf (some a) ≤ xs.idxOf (some b) := by
  have ordered := List.pairwise_iff_getElem.1 (pairwise_idxOf_eraseDups xs)
  have listed {a : α} (member : some a ∈ xs) : a ∈ xs.reduceOption.eraseDups :=
    List.mem_eraseDups.2 (List.reduceOption_mem_iff.2 member)
  have comes {a b : α} (here : some a ∈ xs) (there : some b ∈ xs)
      (less : xs.reduceOption.eraseDups.idxOf a < xs.reduceOption.eraseDups.idxOf b) :
      xs.idxOf (some a) < xs.idxOf (some b) := by
    have found := ordered _ _ (List.idxOf_lt_length_iff.2 (listed here))
      (List.idxOf_lt_length_iff.2 (listed there)) less
    rwa [List.getElem_idxOf, List.getElem_idxOf] at found
  constructor
  · intro le
    rcases Nat.lt_or_eq_of_le le with less | same
    · exact Nat.le_of_lt (comes here there less)
    · rw [(List.idxOf_inj (listed here)).1 same]
  · intro le
    by_contra behind
    exact Nat.not_lt.2 le (comes there here (Nat.lt_of_not_le behind))

namespace Matcher

open Expansion (freshGroup namesOf)

variable {α : Type} {matcher : Matcher} {groups : List (Option (List α))}
  {decode : List α → String} {raw : List α} {field : String} {number : Nat} {e : Error}

/-- The group that wins a field cannot be converted: its hint is no type, or what it matched is no
    value of the type. The error tells the field, and what was to become what. -/
inductive Refuses (matcher : Matcher) (groups : List (Option (List α))) (decode : List α → String)
    (field : String) : Error → Prop where
  | unknown {word : String} {raw : List α}
      (won : matcher.winner? groups field = some (⟨field, some (.unsupported word)⟩, raw)) :
      Refuses matcher groups decode field (.typeNotProvided field word)
  | improper {hint : Hint} {raw : List α} {reason : String}
      (won : matcher.winner? groups field = some (⟨field, some hint⟩, raw))
      (failed : hint.convert field (decode raw) =
        .error (.conversion field hint.word (decode raw) reason)) :
      Refuses matcher groups decode field (.conversion field hint.word (decode raw) reason)

/-- The group with a number is the first one that fills a field. -/
def FillsFirst (matcher : Matcher) (groups : List (Option (List α))) (field : String)
    (number : Nat) : Prop :=
  (∃ raw, matcher.Fills groups field number raw) ∧
    ∀ other text, matcher.Fills groups field other text → number ≤ other

/-- No group of a field comes before the first one that fills it. -/
def FilledAtOnce (matcher : Matcher) (groups : List (Option (List α))) (field : String) : Prop :=
  ∀ number, matcher.FillsFirst groups field number →
    ∀ earlier hint, matcher.captures[earlier]? = some (some ⟨field, hint⟩) → number ≤ earlier

/-- The typed reading of an input fails if and only if the winning group of some field cannot be
    converted, and of these fields it blames the one that was filled first. That is the one that
    stands first among the fields of the matcher, if they were all filled by their first groups. -/
structure Blames (matcher : Matcher) (found : Option (List (Option (List α))))
    (decode : List α → String) (typed : Except Error (TreeMap String Value)) : Prop where
  first : ∀ e, typed = .error e ↔ ∃ groups, found = some groups ∧ ∃ field number,
    matcher.Refuses groups decode field e ∧ matcher.FillsFirst groups field number ∧
    ∀ other e' first, matcher.Refuses groups decode other e' →
      matcher.FillsFirst groups other first → number ≤ first
  inOrder : ∀ groups, found = some groups →
    (∀ field e, matcher.Refuses groups decode field e → matcher.FilledAtOnce groups field) →
    ∀ e, typed = .error e ↔ ∃ field, matcher.Refuses groups decode field e ∧
      ∀ other e', matcher.Refuses groups decode other e' →
        matcher.fieldNames.idxOf field ≤ matcher.fieldNames.idxOf other

/-! ### Order -/

/-- The field that each group fills, if any. -/
def filled (matcher : Matcher) (groups : List (Option (List α))) : List (Option String) :=
  (matcher.captures.zip groups).map fun
    | (some capture, some raw) => if raw.isEmpty then none else some capture.field
    | _ => none

theorem getElem?_filled : (matcher.filled groups)[number]? = some (some field) ↔
    ∃ raw, matcher.Fills groups field number raw := by
  unfold filled Fills
  rw [List.getElem?_map, Option.map_eq_some_iff]
  constructor
  · rintro ⟨⟨_ | capture, _ | raw⟩, here, fills⟩
    · cases fills
    · cases fills
    · cases fills
    · obtain ⟨stands, matched⟩ := List.getElem?_zip_eq_some.1 here
      cases raw with
      | nil => cases fills
      | cons c raw =>
        cases fills
        exact ⟨_, ⟨capture.hint, stands⟩, matched, List.cons_ne_nil c raw⟩
  · rintro ⟨raw, ⟨hint, stands⟩, matched, some⟩
    refine ⟨(Option.some ⟨field, hint⟩, Option.some raw),
      List.getElem?_zip_eq_some.2 ⟨stands, matched⟩, ?_⟩
    simp [some]

theorem fields_present : (matcher.present groups).map (·.1.field) =
    (matcher.filled groups).reduceOption := by
  unfold present filled
  induction matcher.captures.zip groups with
  | nil => rfl
  | cons pair pairs ih =>
    rw [List.map_cons, List.filterMap_cons]
    rcases pair with ⟨_ | capture, _ | _ | ⟨c, raw⟩⟩
    all_goals simpa using ih

/-- Winning groups are in the order in which their fields were first filled. -/
theorem fields_winners : (matcher.winners groups).map (·.1.field) =
    (matcher.filled groups).reduceOption.eraseDups := by
  rw [← fields_present, winners]
  induction matcher.present groups using List.reverseRecOn with
  | nil => rfl
  | append_singleton found pair ih =>
    rw [List.foldl_append, List.foldl_cons, List.foldl_nil, fields_place, ih, List.map_append,
      List.map_singleton, eraseDups_concat]
    simp only [List.mem_eraseDups]

theorem fillsFirst_iff : matcher.FillsFirst groups field number ↔
    some field ∈ matcher.filled groups ∧ number = (matcher.filled groups).idxOf (some field) := by
  have told : matcher.FillsFirst groups field number ↔
      (matcher.filled groups)[number]? = some (some field) ∧
        ∀ other, (matcher.filled groups)[other]? = some (some field) → number ≤ other := by
    simp only [FillsFirst, getElem?_filled, forall_exists_index]
  rw [told]
  constructor
  · rintro ⟨here, least⟩
    have member := List.mem_of_getElem? here
    have first := least _ (List.getElem?_idxOf member)
    exact ⟨member, Nat.le_antisymm first (idxOf_le_of_getElem? here)⟩
  · rintro ⟨member, rfl⟩
    exact ⟨List.getElem?_idxOf member, fun _ => idxOf_le_of_getElem?⟩

/-! ### Blame -/

/-- A group that wins a field fills it. -/
theorem mem_filled_of_winner? {won : Capture × List α}
    (found : matcher.winner? groups field = some won) : some field ∈ matcher.filled groups := by
  obtain ⟨number, fills, _⟩ := fillsLast_of_winner? found
  exact List.mem_of_getElem? (getElem?_filled.2 ⟨_, fills⟩)

/-- A field is refused if its winning group cannot be converted. -/
theorem refuses_iff : matcher.Refuses groups decode field e ↔
    ∃ won, matcher.winner? groups field = some won ∧ won.1.convert (decode won.2) = .error e := by
  constructor
  · rintro (won | ⟨won, failed⟩)
    · exact ⟨_, won, rfl⟩
    · exact ⟨_, won, failed⟩
  · rintro ⟨⟨⟨own, hint⟩, raw⟩, won, failed⟩
    obtain rfl : own = field := field_of_winner? won
    cases hint with
    | none => cases failed
    | some hint =>
      rcases Hint.convert_eq_error failed with ⟨word, rfl, rfl⟩ | ⟨reason, _, rfl⟩
      · exact .unknown won
      · exact .improper won failed

theorem Refuses.mem_filled (refuses : matcher.Refuses groups decode field e) :
    some field ∈ matcher.filled groups := by
  obtain ⟨won, found, _⟩ := refuses_iff.1 refuses
  exact mem_filled_of_winner? found

/-- Refused fields by the entries of the winning groups. -/
theorem refuses_iff_entry : matcher.Refuses groups decode field e ↔
    ∃ won ∈ matcher.winners groups, won.1.field = field ∧ entry decode won = .error e := by
  simp only [refuses_iff, entry_eq_error]
  constructor
  · rintro ⟨won, found, failed⟩
    have name := field_of_winner? found
    exact ⟨won, mem_winners.2 (name ▸ found), name, failed⟩
  · rintro ⟨won, member, rfl, failed⟩
    exact ⟨won, mem_winners.1 member, failed⟩

/-- Winning groups are in the order in which their fields were first filled. -/
theorem pairwise_winners (matcher : Matcher) (groups : List (Option (List α))) :
    (matcher.winners groups).Pairwise fun one other =>
      (matcher.filled groups).idxOf (some one.1.field) <
        (matcher.filled groups).idxOf (some other.1.field) := by
  have ordered := pairwise_idxOf_eraseDups (matcher.filled groups)
  rwa [← fields_winners, List.pairwise_map] at ordered

/-- Of the fields that are refused, the typed reading blames the one that was filled first. -/
theorem values_eq_error_iff : (matcher.values groups decode).run.result = .error e ↔
    ∃ field, matcher.Refuses groups decode field e ∧ ∀ other e',
      matcher.Refuses groups decode other e' →
      (matcher.filled groups).idxOf (some field) ≤ (matcher.filled groups).idxOf (some other) := by
  simp only [refuses_iff_entry]
  rw [values_eq]
  rcases mapM_entry_cases decode (matcher.winners groups) with
    ⟨pairs, converted, each⟩ | ⟨before, blamed, after, e', split, fine, failed, aborted⟩
  · rw [converted]
    refine iff_of_false nofun ?_
    rintro ⟨_, ⟨won, member, rfl, failed⟩, _⟩
    obtain ⟨_, _, entered⟩ := exists_entry each member
    cases failed.symm.trans entered
  · rw [aborted]
    have ordered := matcher.pairwise_winners groups
    -- What is refused is the group that ended the conversion, or comes behind it.
    have behind : ∀ won ∈ matcher.winners groups, ∀ e, entry decode won = .error e →
        won = blamed ∨ won ∈ after := by
      intro won member e refused
      rw [split, List.mem_append, List.mem_cons] at member
      rcases member with earlier | here
      · obtain ⟨_, entered⟩ := fine won earlier
        cases refused.symm.trans entered
      · exact here
    have first : ∀ won ∈ after, (matcher.filled groups).idxOf (some blamed.1.field) <
        (matcher.filled groups).idxOf (some won.1.field) := by
      rw [split] at ordered
      exact (List.pairwise_cons.1 (List.pairwise_append.1 ordered).2.1).1
    have member : blamed ∈ matcher.winners groups := by simp [split]
    constructor
    · rintro ⟨⟩
      refine ⟨_, ⟨blamed, member, rfl, failed⟩, ?_⟩
      rintro _ e' ⟨won, there, rfl, refused⟩
      rcases behind won there e' refused with rfl | later
      · exact Nat.le_refl _
      · exact Nat.le_of_lt (first won later)
    · rintro ⟨_, ⟨won, there, rfl, refused⟩, least⟩
      rcases behind won there e refused with rfl | later
      · cases failed.symm.trans refused
        rfl
      · have before := least _ _ ⟨blamed, member, rfl, failed⟩
        exact absurd (first won later) (Nat.not_lt.2 before)

/-- The field that each group stands for, if any. -/
def named (matcher : Matcher) : List (Option String) := matcher.captures.map (·.map (·.field))

theorem getElem?_named : matcher.named[number]? = some (some field) ↔
    ∃ hint, matcher.captures[number]? = some (some ⟨field, hint⟩) := by
  rw [named, List.getElem?_map, Option.map_eq_some_iff]
  constructor
  · rintro ⟨_ | ⟨own, hint⟩, here, same⟩
    · cases same
    · cases same
      exact ⟨hint, here⟩
  · rintro ⟨hint, here⟩
    exact ⟨_, here, rfl⟩

/-- The fields of a matcher are in the order of the first groups that stand for them. -/
theorem idxOf_fieldNames_le_iff {other : String} (here : some field ∈ matcher.named)
    (there : some other ∈ matcher.named) :
    matcher.fieldNames.idxOf field ≤ matcher.fieldNames.idxOf other ↔
      matcher.named.idxOf (some field) ≤ matcher.named.idxOf (some other) := by
  have listed : matcher.fieldNames = matcher.named.reduceOption.eraseDups := by
    rw [fieldNames, named, List.reduceOption, List.filterMap_map]
    rfl
  rw [listed]
  exact idxOf_eraseDups_le_iff here there

theorem mem_named_of_mem_filled (fills : some field ∈ matcher.filled groups) :
    some field ∈ matcher.named := by
  obtain ⟨number, here⟩ := List.mem_iff_getElem?.1 fills
  obtain ⟨_, stands, _⟩ := getElem?_filled.1 here
  exact List.mem_of_getElem? (getElem?_named.2 stands)

/-- Where no group of a field comes before the first one that fills it, that one is the first one
    that stands for the field. -/
theorem FilledAtOnce.idxOf_eq (atOnce : matcher.FilledAtOnce groups field)
    (fills : some field ∈ matcher.filled groups) :
    (matcher.filled groups).idxOf (some field) = matcher.named.idxOf (some field) := by
  refine Nat.le_antisymm ?_ ?_
  · obtain ⟨hint, first⟩ :=
      getElem?_named.1 (List.getElem?_idxOf (mem_named_of_mem_filled fills))
    exact atOnce _ (fillsFirst_iff.2 ⟨fills, rfl⟩) _ hint first
  · obtain ⟨_, stands, _⟩ := getElem?_filled.1 (List.getElem?_idxOf fills)
    exact idxOf_le_of_getElem? (getElem?_named.2 stands)

theorem blames_groups (matcher : Matcher) (groups : List (Option (List α)))
    (decode : List α → String) :
    matcher.Blames (some groups) decode (matcher.values groups decode).run.result := by
  refine ⟨fun e => ?_, ?_⟩
  · rw [values_eq_error_iff]
    constructor
    · rintro ⟨field, refuses, least⟩
      refine ⟨groups, rfl, field, _, refuses, fillsFirst_iff.2 ⟨refuses.mem_filled, rfl⟩, ?_⟩
      intro other e' first refuses' fills
      exact (fillsFirst_iff.1 fills).2 ▸ least other e' refuses'
    · rintro ⟨_, ⟨⟩, field, number, refuses, fills, least⟩
      refine ⟨field, refuses, fun other e' refuses' => ?_⟩
      exact (fillsFirst_iff.1 fills).2 ▸
        least other e' _ refuses' (fillsFirst_iff.2 ⟨refuses'.mem_filled, rfl⟩)
  · rintro _ ⟨⟩ atOnce e
    have known {field : String} {e : Error} (refuses : matcher.Refuses groups decode field e) :
        some field ∈ matcher.named := mem_named_of_mem_filled refuses.mem_filled
    rw [values_eq_error_iff]
    refine exists_congr fun field => and_congr_right fun refuses => ?_
    refine forall_congr' fun other => forall_congr' fun e' => forall_congr' fun refuses' => ?_
    rw [idxOf_fieldNames_le_iff (known refuses) (known refuses'),
      (atOnce field e refuses).idxOf_eq refuses.mem_filled,
      (atOnce other e' refuses').idxOf_eq refuses'.mem_filled]

theorem blames_none (matcher : Matcher) (decode : List α → String) :
    matcher.Blames none decode (.ok ∅) :=
  ⟨by simp, nofun⟩

/-- The typed reading of every text and of all bytes blames the field that was filled first, of
    those that cannot be converted. -/
theorem parseTyped_blames (matcher : Matcher) :
    (∀ text : String, matcher.Blames (matcher.regex.matchText? text) String.ofList
      (matcher.parseTyped text).result) ∧
    ∀ bytes : List UInt8, matcher.Blames (matcher.regex.matchBytes? bytes) Utf8.decodeLossy
      (matcher.parseTypedBytes bytes).result := by
  refine ⟨fun text => ?_, fun bytes => ?_⟩
  · rw [result_parseTyped]
    cases matcher.regex.matchText? text with
    | none => exact blames_none ..
    | some groups => exact blames_groups ..
  · rw [result_parseTypedBytes]
    cases matcher.regex.matchBytes? bytes with
    | none => exact blames_none ..
    | some groups => exact blames_groups ..

/-- A field that may be filled before another one, and is filled after it. -/
def swapped : String := "%{A:x:int}?%{B:y:int}%{A:x}"

/-- A library for two letters. -/
def bothLetters : Library := Expansion.letters.insert "B" "b"

theorem lookup?_bothLetters :
    bothLetters.lookup? "A" = some "a" ∧ bothLetters.lookup? "B" = some "b" := by
  simp [bothLetters, Expansion.letters, Library.lookup?_insert]

/-- What is named in the end. -/
def swappedNaming : Expansion.Naming where
  captures := (((∅ : TreeMap String String).insert "x" "x").insert "y" "y").insert "x__2" "x"
  fieldHints := ((∅ : TreeMap String Hint).insert "x" .int).insert "y" .int

theorem nests_swapped : Expansion.Nests bothLetters true 1 [] {} swapped.toList
    "(?P<x>a)?(?P<y>b)(?P<x__2>a)".toList swappedNaming := by
  have split₁ : Token.first? swapped.toList =
      some ⟨[], ⟨"A", some "x", some "int"⟩, "?%{B:y:int}%{A:x}".toList⟩ := by decide +kernel
  have split₂ : Token.first? "?%{B:y:int}%{A:x}".toList =
      some ⟨['?'], ⟨"B", some "y", some "int"⟩, "%{A:x}".toList⟩ := by decide +kernel
  have split₃ : Token.first? "%{A:x}".toList = some ⟨[], ⟨"A", some "x", none⟩, []⟩ := by
    decide +kernel
  have carried₁ : FieldName.isReserved "x" = false := by decide +kernel
  have carried₂ : FieldName.isReserved "y" = false := by decide +kernel
  have fresh₁ : freshGroup (namesOf ∅) (FieldName.encode "x") = "x" := by decide +kernel
  have fresh₂ : freshGroup (namesOf ((∅ : TreeMap String String).insert "x" "x"))
      (FieldName.encode "y") = "y" := by decide +kernel
  have fresh₃ : freshGroup (namesOf (((∅ : TreeMap String String).insert "x" "x").insert "y" "y"))
      (FieldName.encode "x") = "x__2" := by decide +kernel
  have nests : Expansion.Nests bothLetters true 1 [] {} swapped.toList _ swappedNaming :=
    .token split₁ List.not_mem_nil Nat.one_pos lookup?_bothLetters.1
        (Expansion.Naming.enter_field carried₁ fresh₁) (.plain rfl) <|
      .token split₂ List.not_mem_nil Nat.one_pos lookup?_bothLetters.2
          (Expansion.Naming.enter_field carried₂ fresh₂) (.plain rfl) <|
        .token split₃ List.not_mem_nil Nat.one_pos lookup?_bothLetters.1
          (Expansion.Naming.enter_field carried₁ fresh₃) (.plain rfl) (.plain rfl)
  have spelled : [] ++ Expansion.head (some "x") ++ "a".toList ++ ")".toList ++
      (['?'] ++ Expansion.head (some "y") ++ "b".toList ++ ")".toList ++
        ([] ++ Expansion.head (some "x__2") ++ "a".toList ++ ")".toList ++ [])) =
      "(?P<x>a)?(?P<y>b)(?P<x__2>a)".toList := by decide +kernel
  exact spelled ▸ nests

theorem compile_swapped : ∃ matcher : Matcher,
    compile bothLetters swapped true { maxDepth := 1 } = .ok matcher ∧
    matcher.captures =
      [none, some ⟨"x", some .int⟩, some ⟨"y", some .int⟩, some ⟨"x", some .int⟩] ∧
    matcher.regex.matchText? "ba" = some [some ['b', 'a'], none, some ['b'], some ['a']] := by
  have read : (Regex.ofString? "(?P<x>a)?(?P<y>b)(?P<x__2>a)").toOption.map
      (fun regex => (regex.groups.toList, regex.matchText? "ba")) =
      some ([none, some "x", some "y", some "x__2"],
        some [some ['b', 'a'], none, some ['b'], some ['a']]) := by decide +kernel
  cases found : Regex.ofString? "(?P<x>a)?(?P<y>b)(?P<x__2>a)" with
  | error e => rw [found] at read; cases read
  | ok regex =>
    rw [found] at read
    obtain ⟨groups, matched⟩ := Prod.mk.inj (Option.some.inj read)
    have stand : capturesOf ⟨[], swappedNaming.captures, swappedNaming.fieldHints⟩ regex =
        [none, some ⟨"x", some .int⟩, some ⟨"y", some .int⟩, some ⟨"x", some .int⟩] := by
      rw [capturesOf, groups]
      decide +kernel
    exact ⟨_, compile_of_nests nests_swapped found, stand, matched⟩

/-- Two fields cannot be converted, and the one that comes second among the fields is blamed, since
    it was filled first. -/
theorem blamed_out_of_order : ∃ matcher : Matcher,
    compile bothLetters swapped true { maxDepth := 1 } = .ok matcher ∧
    matcher.fieldNames = ["x", "y"] ∧ (matcher.parse "ba").result["x"]? = some "a" ∧
    matcher.hint? "x" = some .int ∧ Hint.int.convert "x" "a" =
      .error (.conversion "x" "int" "a" "invalid digit found in string") ∧
    (matcher.parseTyped "ba").result =
      .error (.conversion "y" "int" "b" "invalid digit found in string") := by
  obtain ⟨matcher, compiled, stand, matched⟩ := compile_swapped
  have won : matcher.winners [some ['b', 'a'], none, some ['b'], some ['a']] =
      [(⟨"y", some .int⟩, ['b']), (⟨"x", some .int⟩, ['a'])] := by
    simp [winners, present, stand, place]
  have refused : entry String.ofList (⟨"y", some .int⟩, ['b']) =
      .error (.conversion "y" "int" "b" "invalid digit found in string") := by decide +kernel
  refine ⟨matcher, compiled, ?_, ?_, ?_, by decide +kernel, ?_⟩
  · simp [fieldNames, stand, List.eraseDups_cons]
  · simp [result_parse, matched, fields, present, stand]
  · simp [hint?, stand]
  · simp only [result_parseTyped, matched, values_eq]
    rw [won, List.mapM_cons, refused]
    rfl

end Matcher

end LogSift
