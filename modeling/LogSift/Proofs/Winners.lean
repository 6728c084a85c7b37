import LogSift.Proofs.Recorded
import Mathlib.Data.List.Induction

/-!
The group that wins a field in a match is the last one of the field that matched something. The raw
reading lets later groups replace earlier ones in a table (`getElem?_fields`), the typed one puts them
in the place of earlier ones in a list (`mem_winners`), and both find the winning groups. So the
typed reading succeeds exactly where the raw texts can be converted, and then has their values
(`parseTyped_follows`); a text that did not win is never converted.
-/

namespace LogSift

open Std (TreeMap LawfulEqCmp ReflCmp)

/-- What a search from the end finds is found at the last place where there is something to find. -/
theorem findSome?_reverse_eq_some_iff {α β : Type} {f : α → Option β} {xs : List α} {y : β} :
    xs.reverse.findSome? f = some y ↔ ∃ before x after, xs = before ++ x :: after ∧ f x = some y ∧
      ∀ later ∈ after, f later = none := by
  rw [List.findSome?_eq_some_iff]
  constructor
  · rintro ⟨after, x, before, split, found, none⟩
    refine ⟨before.reverse, x, after.reverse, ?_, found, fun later member => ?_⟩
    · rw [← List.reverse_reverse xs, split]
      simp
    · exact none later (List.mem_reverse.1 member)
  · rintro ⟨before, x, after, rfl, found, none⟩
    exact ⟨after.reverse, x, before.reverse, by simp, found,
      fun later member => none later (List.mem_reverse.1 member)⟩

namespace Matcher

variable {α β : Type} {matcher : Matcher} {groups : List (Option (List α))} {read : List α → β}
  {found : List (Capture × List α)} {capture other : Capture} {raw text : List α} {field : String}

/-- What a group matched, if it stands for the field and matched something. -/
def claim? (field : String) : Option Capture × Option (List α) → Option (Capture × List α)
  | (some capture, some raw) =>
    if capture.field = field ∧ raw ≠ [] then some (capture, raw) else none
  | _ => none

/-- The group that wins a field: the last one that stands for it and matched something. -/
def winner? (matcher : Matcher) (groups : List (Option (List α))) (field : String) :
    Option (Capture × List α) :=
  (matcher.captures.zip groups).reverse.findSome? (claim? field)

/-- The hint of the group that wins a field. -/
def winningHint? (matcher : Matcher) (groups : List (Option (List α))) (field : String) :
    Option Hint :=
  (matcher.winner? groups field).bind (·.1.hint)

/-- The typed reading of an input goes by its raw reading: it succeeds if and only if the text of
    every field can be converted by the hint of the field, and then it has the same fields, each
    with the value of its text. Where it fails, the text of a field cannot be converted. -/
structure Follows (hint : String → Option Hint) (decode : β → String) (raw : TreeMap String β)
    (typed : Except Error (TreeMap String Value)) : Prop where
  succeeds : (∃ values, typed = .ok values) ↔ ∀ field text, raw[field]? = some text →
    ∃ value, Capture.convert ⟨field, hint field⟩ (decode text) = .ok value
  keys : ∀ values, typed = .ok values → ∀ field, field ∈ values ↔ field ∈ raw
  values : ∀ values, typed = .ok values → ∀ field text, raw[field]? = some text →
    ∃ value, Capture.convert ⟨field, hint field⟩ (decode text) = .ok value ∧
      values[field]? = some value
  blames : ∀ e, typed = .error e → ∃ field text, raw[field]? = some text ∧
    Capture.convert ⟨field, hint field⟩ (decode text) = .error e

/-! ### The last group of a field -/

/-- The last of some groups that stands for a field. -/
def last? (found : List (Capture × List α)) (field : String) : Option (Capture × List α) :=
  found.reverse.find? (·.1.field = field)

theorem last?_concat : last? (found ++ [(capture, raw)]) field =
    if capture.field = field then some (capture, raw) else last? found field := by
  rw [last?, List.reverse_concat, List.find?_cons]
  by_cases same : capture.field = field
  · simp [same]
  · simp [same, last?]

theorem field_of_last? (last : last? found field = some (capture, raw)) :
    capture.field = field := by
  simpa using List.find?_some last

/-- The winning group is the last of those that stand for the field and matched something. -/
theorem winner?_eq_last? : matcher.winner? groups field = last? (matcher.present groups) field := by
  unfold winner? last? present
  rw [← List.filterMap_reverse, List.find?_filterMap]
  generalize (matcher.captures.zip groups).reverse = pairs
  induction pairs with
  | nil => rfl
  | cons pair pairs ih =>
    rw [List.findSome?_cons, List.find?_cons, ih]
    rcases pair with ⟨_ | capture, _ | raw⟩
    · simp [claim?]
    · simp [claim?]
    · simp [claim?]
    · cases raw with
      | nil => simp [claim?]
      | cons c raw =>
        by_cases same : capture.field = field
        · simp [claim?, same]
        · simp [claim?, same]

theorem field_of_winner? (won : matcher.winner? groups field = some (capture, raw)) :
    capture.field = field :=
  field_of_last? (winner?_eq_last? ▸ won)

theorem claim?_eq_some {pair : Option Capture × Option (List α)} :
    claim? field pair = some (capture, raw) ↔
      pair = (some capture, some raw) ∧ capture.field = field ∧ raw ≠ [] := by
  rcases pair with ⟨_ | stands, _ | matched⟩
  · simp [claim?]
  · simp [claim?]
  · simp [claim?]
  · by_cases claims : stands.field = field ∧ matched ≠ []
    · simp only [claim?, if_pos claims, Option.some.injEq, Prod.mk.injEq]
      constructor
      · rintro ⟨rfl, rfl⟩
        exact ⟨⟨rfl, rfl⟩, claims⟩
      · exact And.left
    · simp only [claim?, if_neg claims, Prod.mk.injEq, Option.some.injEq]
      refine iff_of_false nofun ?_
      rintro ⟨⟨rfl, rfl⟩, own⟩
      exact claims own

/-- The group that wins a field is one of the matcher's, and matched something. -/
theorem mem_of_winner? {won : Capture × List α} (found : matcher.winner? groups field = some won) :
    some won.1 ∈ matcher.captures ∧ won.2 ≠ [] := by
  obtain ⟨pair, member, claimed⟩ := List.exists_of_findSome?_eq_some found
  obtain ⟨rfl, -, nonempty⟩ := claim?_eq_some.1 claimed
  exact ⟨(List.of_mem_zip (List.mem_reverse.1 member)).1, nonempty⟩

/-! ### The raw reading -/

/-- A table in which later groups have replaced earlier ones holds the last ones. -/
theorem getElem?_foldl_insert (found : List (Capture × List α)) (read : List α → β)
    (field : String) :
    (found.foldl (fun table (capture, raw) => table.insert capture.field (read raw))
      (∅ : TreeMap String β))[field]? = (last? found field).map fun won => read won.2 := by
  induction found using List.reverseRecOn with
  | nil => simp [last?]
  | append_singleton found pair ih =>
    obtain ⟨capture, raw⟩ := pair
    rw [List.foldl_append, List.foldl_cons, List.foldl_nil, TreeMap.getElem?_insert, ih, last?_concat]
    by_cases same : capture.field = field
    · simp [same]
    · simp [same]

/-- The raw reading has of every field what the winning group matched. -/
theorem getElem?_fields : (matcher.fields groups read)[field]? =
    (matcher.winner? groups field).map fun won => read won.2 := by
  rw [winner?_eq_last?]
  exact getElem?_foldl_insert (matcher.present groups) read field

/-! ### The typed reading -/

theorem mem_place (distinct : (found.map (·.1.field)).Nodup) :
    (other, text) ∈ place capture raw found ↔ (other = capture ∧ text = raw) ∨
      (capture.field ≠ other.field ∧ (other, text) ∈ found) := by
  induction found with
  | nil => simp [place]
  | cons head found ih =>
    obtain ⟨first, old⟩ := head
    rw [List.map_cons, List.nodup_cons] at distinct
    obtain ⟨absent, distinct⟩ := distinct
    rw [place]
    by_cases same : first.field = capture.field
    · -- The group in front gives way, and no other group stands for its field.
      rw [if_pos same, List.mem_cons, List.mem_cons, Prod.mk.injEq, Prod.mk.injEq]
      refine or_congr_right ⟨fun member => ⟨fun equal => ?_, .inr member⟩, ?_⟩
      · exact absent (List.mem_map.2 ⟨_, member, equal.symm.trans same.symm⟩)
      · rintro ⟨differs, ⟨rfl, rfl⟩ | member⟩
        · exact absurd same.symm differs
        · exact member
    · rw [if_neg same, List.mem_cons, List.mem_cons, ih distinct, Prod.mk.injEq]
      constructor
      · rintro (⟨rfl, rfl⟩ | new | ⟨differs, member⟩)
        · exact .inr ⟨Ne.symm same, .inl ⟨rfl, rfl⟩⟩
        · exact .inl new
        · exact .inr ⟨differs, .inr member⟩
      · rintro (new | ⟨differs, here | member⟩)
        · exact .inr (.inl new)
        · exact .inl here
        · exact .inr (.inr ⟨differs, member⟩)

/-- Groups keep their places, and a group of a new field comes last. -/
theorem fields_place : (place capture raw found).map (·.1.field) =
    if capture.field ∈ found.map (·.1.field) then found.map (·.1.field)
    else found.map (·.1.field) ++ [capture.field] := by
  induction found with
  | nil => simp [place]
  | cons head found ih =>
    obtain ⟨first, old⟩ := head
    rw [place]
    by_cases same : first.field = capture.field
    · simp [same]
    · rw [if_neg same, List.map_cons, ih]
      by_cases later : capture.field ∈ found.map (·.1.field)
      · simp [later]
      · simp [later, Ne.symm same]

/-- A list in which later groups have taken the place of earlier ones holds each field once, with
    its last group. -/
theorem foldl_place (found : List (Capture × List α)) :
    ((found.foldl (fun won (capture, raw) => place capture raw won) []).map (·.1.field)).Nodup ∧
    ∀ capture raw, (capture, raw) ∈ found.foldl (fun won (capture, raw) => place capture raw won) [] ↔
      last? found capture.field = some (capture, raw) := by
  induction found using List.reverseRecOn with
  | nil => simp [last?]
  | append_singleton found pair ih =>
    obtain ⟨next, text⟩ := pair
    obtain ⟨distinct, members⟩ := ih
    rw [List.foldl_append, List.foldl_cons, List.foldl_nil]
    constructor
    · rw [fields_place]
      split
      · exact distinct
      · next fresh =>
        refine List.nodup_append.2 ⟨distinct, by simp, ?_⟩
        rintro field member _ here rfl
        exact fresh (List.mem_singleton.1 here ▸ member)
    · intro capture raw
      rw [mem_place distinct, members, last?_concat]
      by_cases same : next.field = capture.field
      · simp [same, Prod.ext_iff, eq_comm]
      · rw [if_neg same]
        refine ⟨?_, fun last => .inr ⟨same, last⟩⟩
        rintro (⟨rfl, rfl⟩ | ⟨_, last⟩)
        · exact absurd rfl same
        · exact last

/-- The typed reading considers each field once. -/
theorem nodup_winners (matcher : Matcher) (groups : List (Option (List α))) :
    ((matcher.winners groups).map (·.1.field)).Nodup :=
  (foldl_place (matcher.present groups)).1

/-- The typed reading considers the winning groups. -/
theorem mem_winners : (capture, raw) ∈ matcher.winners groups ↔
    matcher.winner? groups capture.field = some (capture, raw) := by
  rw [winner?_eq_last?]
  exact (foldl_place (matcher.present groups)).2 capture raw

/-- The raw reading and the typed one are about the same fields. -/
theorem mem_fields : field ∈ matcher.fields groups read ↔
    ∃ won ∈ matcher.winners groups, won.1.field = field := by
  rw [TreeMap.mem_iff_isSome_getElem?, getElem?_fields, Option.isSome_map, Option.isSome_iff_exists]
  constructor
  · rintro ⟨won, found⟩
    have name := field_of_winner? found
    exact ⟨won, mem_winners.2 (name ▸ found), name⟩
  · rintro ⟨won, member, rfl⟩
    exact ⟨won, mem_winners.1 member⟩

/-! ### Conversion -/

variable {decode : List α → String} {values : TreeMap String Value} {value : Value} {e : Error}

theorem entry_eq_ok {won : Capture × List α} {pair : String × Value} :
    entry decode won = .ok pair ↔
      pair.1 = won.1.field ∧ won.1.convert (decode won.2) = .ok pair.2 := by
  unfold entry
  cases won.1.convert (decode won.2) with
  | error e => simp [Except.map]
  | ok value => simp [Except.map, Prod.ext_iff, eq_comm]

theorem entry_eq_error {won : Capture × List α} :
    entry decode won = .error e ↔ won.1.convert (decode won.2) = .error e := by
  unfold entry
  cases won.1.convert (decode won.2) with
  | error e => simp [Except.map]
  | ok value => simp [Except.map]

/-- All conversions succeed, or the first one that fails ends them. -/
theorem mapM_entry_cases (decode : List α → String) (found : List (Capture × List α)) :
    (∃ pairs, found.mapM (entry decode) = .ok pairs ∧
      List.Forall₂ (fun won pair => entry decode won = .ok pair) found pairs) ∨
    ∃ before won after e, found = before ++ won :: after ∧
      (∀ earlier ∈ before, ∃ pair, entry decode earlier = .ok pair) ∧
      entry decode won = .error e ∧ found.mapM (entry decode) = .error e := by
  induction found with
  | nil => exact .inl ⟨[], rfl, .nil⟩
  | cons won found ih =>
    rw [List.mapM_cons]
    cases first : entry decode won with
    | error e => exact .inr ⟨[], won, found, e, rfl, by simp, first, rfl⟩
    | ok pair =>
      rcases ih with ⟨pairs, later, each⟩ | ⟨before, blamed, after, e, rfl, fine, failed, later⟩
      · exact .inl ⟨pair :: pairs, by rw [later]; rfl, .cons first each⟩
      · refine .inr ⟨won :: before, blamed, after, e, rfl, ?_, failed, by rw [later]; rfl⟩
        intro earlier member
        rcases List.mem_cons.1 member with rfl | member
        · exact ⟨pair, first⟩
        · exact fine earlier member

theorem fields_entries {pairs : List (String × Value)}
    (each : List.Forall₂ (fun won pair => entry decode won = .ok pair) found pairs) :
    pairs.map Prod.fst = found.map (·.1.field) := by
  induction each with
  | nil => rfl
  | cons entered _ ih => rw [List.map_cons, List.map_cons, ih, (entry_eq_ok.1 entered).1]

theorem exists_entry {pairs : List (String × Value)} {won : Capture × List α}
    (each : List.Forall₂ (fun won pair => entry decode won = .ok pair) found pairs)
    (member : won ∈ found) : ∃ pair ∈ pairs, entry decode won = .ok pair := by
  induction each with
  | nil => cases member
  | @cons _ pair _ _ entered _ ih =>
    rcases List.mem_cons.1 member with rfl | member
    · exact ⟨pair, List.mem_cons_self, entered⟩
    · obtain ⟨pair, later, entered⟩ := ih member
      exact ⟨pair, List.mem_cons_of_mem _ later, entered⟩

/-- The table of converted groups, no two of one field, has the value of each. -/
theorem getElem?_ofList_entries {pairs : List (String × Value)} {won : Capture × List α}
    (each : List.Forall₂ (fun won pair => entry decode won = .ok pair) found pairs)
    (distinct : (found.map (·.1.field)).Nodup) (member : won ∈ found) :
    ∃ value, won.1.convert (decode won.2) = .ok value ∧
      (TreeMap.ofList pairs)[won.1.field]? = some value := by
  obtain ⟨pair, member, entered⟩ := exists_entry each member
  obtain ⟨name, converted⟩ := entry_eq_ok.1 entered
  have apart : pairs.Pairwise fun a b => ¬ compare a.1 b.1 = .eq := by
    rw [← fields_entries each, List.nodup_iff_pairwise_ne, List.pairwise_map] at distinct
    exact distinct.imp fun differs equal => differs (LawfulEqCmp.compare_eq_iff_eq.1 equal)
  have equal : compare pair.1 won.1.field = .eq := by rw [name]; exact ReflCmp.compare_self
  exact ⟨pair.2, converted, TreeMap.getElem?_ofList_of_mem equal apart member⟩

/-- What a field becomes is what its winning group becomes. -/
theorem convert_winningHint? {won : Capture × List α}
    (found : matcher.winner? groups field = some won) (text : String) :
    Capture.convert ⟨field, matcher.winningHint? groups field⟩ text = won.1.convert text := by
  have same : (⟨field, matcher.winningHint? groups field⟩ : Capture) = won.1 := by
    obtain ⟨⟨name, hint⟩, raw⟩ := won
    rw [winningHint?, found, ← field_of_winner? found]
    rfl
  rw [same]

/-- The typed reading of groups goes by the raw one, whatever that keeps of them. -/
theorem follows_groups (matcher : Matcher) (groups : List (Option (List α))) (keep : List α → β)
    (decode : β → String) :
    Follows (matcher.winningHint? groups) decode (matcher.fields groups keep)
      (matcher.values groups (decode ∘ keep)).run.result := by
  have told : ∀ field text, (matcher.fields groups keep)[field]? = some text →
      ∃ won, matcher.winner? groups field = some won ∧ keep won.2 = text := by
    intro field text raw
    simpa [getElem?_fields] using raw
  have considered : ∀ field won, matcher.winner? groups field = some won →
      won ∈ matcher.winners groups ∧ won.1.field = field := by
    intro field won found
    have name := field_of_winner? found
    exact ⟨mem_winners.2 (name ▸ found), name⟩
  rw [values_eq]
  rcases mapM_entry_cases (decode ∘ keep) (matcher.winners groups) with
    ⟨pairs, converted, each⟩ | ⟨before, blamed, after, e, split, -, failed, aborted⟩
  · rw [converted]
    have valued : ∀ field text, (matcher.fields groups keep)[field]? = some text →
        ∃ value, Capture.convert ⟨field, matcher.winningHint? groups field⟩ (decode text) =
          .ok value ∧ (TreeMap.ofList pairs)[field]? = some value := by
      intro field text raw
      obtain ⟨won, found, rfl⟩ := told field text raw
      obtain ⟨member, rfl⟩ := considered field won found
      rw [convert_winningHint? found]
      exact getElem?_ofList_entries each (nodup_winners matcher groups) member
    refine ⟨⟨fun _ field text raw => ?_, fun _ => ⟨_, rfl⟩⟩, ?_, ?_, ?_⟩
    · obtain ⟨value, result, _⟩ := valued field text raw
      exact ⟨value, result⟩
    · rintro _ ⟨⟩ field
      rw [TreeMap.mem_ofList, fields_entries each, mem_fields]
      simp
    · rintro _ ⟨⟩
      exact valued
    · rintro e ⟨⟩
  · rw [aborted]
    have found : matcher.winner? groups blamed.1.field = some blamed :=
      mem_winners.1 (by rw [split]; simp)
    have raw : (matcher.fields groups keep)[blamed.1.field]? = some (keep blamed.2) := by
      rw [getElem?_fields, found]
      rfl
    have fails : Capture.convert ⟨blamed.1.field, matcher.winningHint? groups blamed.1.field⟩
        (decode (keep blamed.2)) = .error e := by
      rw [convert_winningHint? found]
      exact entry_eq_error.1 failed
    refine ⟨⟨?_, fun fine => ?_⟩, ?_, ?_, ?_⟩
    · rintro ⟨_, ⟨⟩⟩
    · obtain ⟨value, result⟩ := fine _ _ raw
      cases fails.symm.trans result
    · rintro _ ⟨⟩
    · rintro _ ⟨⟩
    · rintro _ ⟨⟩
      exact ⟨_, _, raw, fails⟩

/-- An input that does not match has no fields to convert. -/
theorem follows_empty (hint : String → Option Hint) (decode : β → String) :
    Follows hint decode ∅ (.ok ∅) := by
  refine ⟨⟨fun _ field text raw => ?_, fun _ => ⟨∅, rfl⟩⟩, ?_, ?_, ?_⟩
  · simp at raw
  · rintro _ ⟨⟩ field
    simp
  · rintro _ ⟨⟩ field text raw
    simp at raw
  · rintro e ⟨⟩

theorem follows_text (matcher : Matcher) (text : String) : Follows
    (fun field => (matcher.regex.matchText? text).bind (matcher.winningHint? · field)) id
    (matcher.parse text).result (matcher.parseTyped text).result := by
  rw [result_parse, result_parseTyped]
  cases matcher.regex.matchText? text with
  | none => exact follows_empty ..
  | some groups => exact follows_groups matcher groups String.ofList id

theorem follows_bytes (matcher : Matcher) (bytes : List UInt8) : Follows
    (fun field => (matcher.regex.matchBytes? bytes).bind (matcher.winningHint? · field))
    Utf8.decodeLossy (matcher.parseBytes bytes).result
    (matcher.parseTypedBytes bytes).result := by
  rw [result_parseBytes, result_parseTypedBytes]
  cases matcher.regex.matchBytes? bytes with
  | none => exact follows_empty ..
  | some groups => exact follows_groups matcher groups id Utf8.decodeLossy

end Matcher

end LogSift
