import LogSift.Proofs.Captures
import LogSift.Proofs.Winners
import LogSift.Regex.Footprint

/-!
The types that tokens declare for fields. The type declared last for a field becomes the hint of
every group that a token of the field becomes (`hintOf?_eq_declared?`); a group that is written by
hand has none. So the declared type governs a field if and only if no group written by hand stands
for the field as well (`compile_governs_iff`).
-/

namespace LogSift

open Std (TreeMap)

namespace Expansion

/-- The hint that a token declares for a field. -/
def declares? (namedOnly : Bool) (field : String) (token : Token) : Option Hint :=
  if token.fieldName? namedOnly = some field then token.type.map .ofWord else none

/-- The hint that is declared last for a field by tokens in order. -/
def declared? (namedOnly : Bool) (tokens : List Token) (field : String) : Option Hint :=
  tokens.reverse.findSome? (declares? namedOnly field)

/-- The tokens that groups are opened for, in order. -/
def tokens (expansion : Expansion) : List Token := expansion.openings.map (·.1)

/-- A group that is written by hand: no token has become a group of this name. -/
def Handwritten (expansion : Expansion) (group : String) : Prop :=
  ∀ token, (token, some group) ∉ expansion.openings

variable {library : Library} {expression : String} {namedOnly : Bool} {maxDepth : Nat}
  {out finished entered : Output} {frames : List Frame} {token : Token} {before : List Char}
  {expansion : Expansion} {group field : String}

/-- The hints of the fields are those declared last by the tokens opened, the last one first. -/
def Hinted (namedOnly : Bool) (out : Output) : Prop :=
  ∀ field, out.fieldHints[field]? =
    (out.openings.map (·.1)).findSome? (declares? namedOnly field)

theorem Hinted.openToken (hinted : Hinted namedOnly out)
    (opened : (out.emit (.text before)).openToken token namedOnly = .ok entered) :
    Hinted namedOnly entered := by
  obtain ⟨group, openings, named⟩ := openings_openToken opened
  intro field
  rw [openings, List.map_cons, List.findSome?_cons, ← hinted field, declares?]
  rcases Naming.enter_cases named with ⟨silent, -, same⟩ | ⟨own, captured, -, -, -, told⟩
  · have kept : entered.fieldHints = out.fieldHints := congrArg Naming.fieldHints same
    simp [silent, kept]
  · have hints : entered.fieldHints = _ := told
    rw [hints]
    cases declared : token.type with
    | none => simp [Output.naming]
    | some type =>
      by_cases same : own = field
      · subst same
        simp [captured]
      · simp [captured, same, TreeMap.getElem?_insert, Output.naming]

theorem Runs.hinted (runs : Runs library namedOnly maxDepth frames out finished)
    (hinted : Hinted namedOnly out) : Hinted namedOnly finished := by
  induction runs with
  | done => exact hinted
  | @leave name _ _ _ _ _ _ onward => exact onward (by cases name <;> exact hinted)
  | enter _ _ opened _ onward => exact onward (hinted.openToken opened)

/-- The hint of a field is the one declared last for it, in whichever body that is done. -/
theorem fieldHints_eq_declared? [Regex.Engine]
    (expanded : library.expand expression namedOnly maxDepth = .ok expansion) (field : String) :
    expansion.fieldHints[field]? = declared? namedOnly expansion.tokens field := by
  obtain ⟨finished, runs, rfl⟩ := expand_eq_ok_iff.1 expanded
  have hinted : Hinted namedOnly finished := runs.hinted fun field => by simp [Output.openings]
  rw [declared?, tokens, openings_ofOutput, ← List.map_reverse, List.reverse_reverse]
  exact hinted field

theorem opens_of_expand [Regex.Engine]
    (expanded : library.expand expression namedOnly maxDepth = .ok expansion) :
    Opens library (Token.all expression) expansion.tokens := by
  obtain ⟨finished, runs, rfl⟩ := expand_eq_ok_iff.1 expanded
  obtain ⟨opened, openings, opens⟩ := runs.opens
  have all : finished.openings.map (·.1) = opened.reverse := openings.trans (List.append_nil _)
  rw [tokens, openings_ofOutput, List.map_reverse, all, List.reverse_reverse]
  exact List.append_nil (Token.all expression) ▸ opens

theorem records_of_expand [Regex.Engine]
    (expanded : library.expand expression namedOnly maxDepth = .ok expansion) :
    Records namedOnly expansion.openings expansion.captures := by
  obtain ⟨finished, runs, rfl⟩ := expand_eq_ok_iff.1 expanded
  rw [openings_ofOutput]
  exact (runs.records records_nil).reverse

/-- The hint of a group in the table is the one declared last for its field. -/
theorem hintOf?_of_captured [Regex.Engine]
    (expanded : library.expand expression namedOnly maxDepth = .ok expansion)
    (captured : expansion.captures[group]? = some field) :
    expansion.hintOf? group = declared? namedOnly expansion.tokens field := by
  rw [← fieldHints_eq_declared? expanded]
  simp [hintOf?, captured]

/-- A group that a token has become carries the hint declared last for its field. -/
theorem hintOf?_eq_declared? [Regex.Engine]
    (expanded : library.expand expression namedOnly maxDepth = .ok expansion)
    (emitted : ¬ expansion.Handwritten group) :
    expansion.hintOf? group = declared? namedOnly expansion.tokens (expansion.fieldOf group) := by
  obtain ⟨token, opened⟩ := not_forall_not.1 emitted
  have records := records_of_expand expanded
  cases captured : token.fieldName? namedOnly with
  | none => cases (records.named token (some group) opened).2 captured
  | some field =>
    have told := (records.fields group field).2 ⟨token, opened, captured⟩
    rw [hintOf?_of_captured expanded told]
    simp [fieldOf, told]

/-- A group that is written by hand carries no hint. -/
theorem hintOf?_of_handwritten [Regex.Engine]
    (expanded : library.expand expression namedOnly maxDepth = .ok expansion)
    (handwritten : expansion.Handwritten group) : expansion.hintOf? group = none := by
  cases told : expansion.captures[group]? with
  | none => simp [hintOf?, told]
  | some field =>
    obtain ⟨token, opened, _⟩ := ((records_of_expand expanded).fields group field).1 told
    exact absurd opened (handwritten token)

end Expansion

namespace Matcher

open Expansion (Opens Naming declared?)

variable {library : Library} {expression : String} {namedOnly : Bool} {settings : Settings}
  {matcher : Matcher} {expansion : Expansion} {regex : Regex} {capture : Capture} {field : String}

theorem compile_eq_ok_iff [Regex.Engine] : compile library expression namedOnly settings = .ok matcher ↔
    ∃ expansion regex, library.expand expression namedOnly settings.maxDepth = .ok expansion ∧
      Regex.ofString? expansion.source (settings.sizeLimit.getD Regex.Expr.defaultLimit) =
        .ok regex ∧
      matcher = ⟨expression, namedOnly, regex, capturesOf expansion regex⟩ := by
  unfold compile ofExpansion
  cases library.expand expression namedOnly settings.maxDepth with
  | error e => simp [bind, Except.bind]
  | ok expansion =>
    simp only [bind, Except.bind]
    cases found : Regex.ofString? expansion.source
        (settings.sizeLimit.getD Regex.Expr.defaultLimit) with
    | error e => simp [found]
    | ok regex => simp [found, eq_comm]

theorem source_of_ofString? [Regex.Engine] {source : String} {limit : Nat}
    (read : Regex.ofString? source limit = .ok regex) : regex.source = source := by
  unfold Regex.ofString? at read
  cases parsed : Regex.Reader.read source.toList with
  | error e => simp [parsed, bind, Except.bind] at read
  | ok expr =>
    simp only [parsed, bind, Except.bind] at read
    split at read
    · cases read
      rfl
    · cases read

theorem mem_capturesOf : some capture ∈ capturesOf expansion regex ↔
    ∃ group, some group ∈ regex.groups.toList ∧
      capture = ⟨expansion.fieldOf group, expansion.hintOf? group⟩ := by
  rw [capturesOf, List.mem_map]
  constructor
  · rintro ⟨_ | group, member, same⟩
    · cases same
    · exact ⟨group, member, (Option.some.inj same).symm⟩
  · rintro ⟨group, member, rfl⟩
    exact ⟨some group, member, rfl⟩

/-- A hint governs a field: all groups of the field carry it, the matcher tells it, and the typed
    reading gives for the field what it makes of the raw text. -/
structure Governs (matcher : Matcher) (field : String) (hint : Option Hint) : Prop where
  groups : ∀ capture, some capture ∈ matcher.captures → capture.field = field →
    capture.hint = hint
  told : field ∈ matcher.fieldNames → matcher.hint? field = hint
  values : ∀ text values raw, (matcher.parseTyped text).result = .ok values →
    (matcher.parse text).result[field]? = some raw →
    ∃ value, Capture.convert ⟨field, matcher.hint? field⟩ raw = .ok value ∧
      values[field]? = some value

theorem mem_fieldNames : field ∈ matcher.fieldNames ↔
    ∃ capture, some capture ∈ matcher.captures ∧ capture.field = field := by
  simp [fieldNames]

/-- The matcher tells the hint that all groups of a field carry. -/
theorem hint?_eq_of_forall {hint : Option Hint} (named : field ∈ matcher.fieldNames)
    (carry : ∀ capture, some capture ∈ matcher.captures → capture.field = field →
      capture.hint = hint) : matcher.hint? field = hint := by
  obtain ⟨first, member, own⟩ := mem_fieldNames.1 named
  unfold hint?
  generalize held : ((matcher.captures.filterMap id).filter (·.field == field)).reverse = groups
  have all : ∀ capture ∈ groups, capture.hint = hint := by
    intro capture present
    rw [← held] at present
    obtain ⟨captures, named⟩ : some capture ∈ matcher.captures ∧ capture.field = field := by
      simpa using present
    exact carry capture captures named
  have present : first ∈ groups := by
    rw [← held]
    simpa using ⟨member, own⟩
  cases hint with
  | none => simpa using all
  | some hint =>
    cases groups with
    | nil => cases present
    | cons capture groups => rw [List.findSome?_cons, all capture List.mem_cons_self]

/-- A hint that all groups of a field carry governs the field. -/
theorem governs_of_groups {hint : Option Hint}
    (carry : ∀ capture, some capture ∈ matcher.captures → capture.field = field →
      capture.hint = hint) : matcher.Governs field hint := by
  refine ⟨carry, fun named => hint?_eq_of_forall named carry, ?_⟩
  intro text values raw converted told
  have follows := (matcher.follows_text text).values values converted field raw told
  -- The text is one that a group won, so it was converted by the hint of a group of the field.
  have hinted : (matcher.regex.matchText? text).bind (matcher.winningHint? · field) =
      matcher.hint? field := by
    rw [result_parse] at told
    cases groups : matcher.regex.matchText? text with
    | none => simp [groups] at told
    | some groups' =>
      simp only [groups, getElem?_fields, Option.map_eq_some_iff] at told
      obtain ⟨won, found, _⟩ := told
      have member := (mem_of_winner? found).1
      have own := field_of_winner? found
      rw [hint?_eq_of_forall (mem_fieldNames.2 ⟨won.1, member, own⟩) carry, Option.bind_some,
        winningHint?, found]
      exact carry won.1 member own
  rwa [hinted] at follows

/-- The hint declared last for a field by the tokens that an expression leads to governs the field
    in the compiled matcher, if and only if there is no such hint or no group that is written by
    hand stands for the field. -/
theorem compile_governs_iff [Regex.Engine] (library : Library) (expression : String) (namedOnly : Bool)
    (settings : Settings) (matcher : Matcher)
    (compiled : compile library expression namedOnly settings = .ok matcher) :
    ∃ expansion : Expansion,
      library.expand expression namedOnly settings.maxDepth = .ok expansion ∧
      matcher.source = expansion.source ∧
      Opens library (Token.all expression) expansion.tokens ∧
      ∀ field, matcher.Governs field (declared? namedOnly expansion.tokens field) ↔
        declared? namedOnly expansion.tokens field = none ∨
        ∀ group, some group ∈ matcher.regex.groups.toList → expansion.Handwritten group →
          expansion.fieldOf group ≠ field := by
  obtain ⟨expansion, regex, expanded, read, rfl⟩ := compile_eq_ok_iff.1 compiled
  refine ⟨expansion, expanded, ?_, Expansion.opens_of_expand expanded, fun field => ⟨?_, ?_⟩⟩
  · exact source_of_ofString? read
  · intro governs
    refine or_iff_not_imp_left.2 fun declared group named handwritten own => declared ?_
    have carried := governs.groups _ (mem_capturesOf.2 ⟨group, named, rfl⟩) own
    rw [Expansion.hintOf?_of_handwritten expanded handwritten] at carried
    exact carried.symm
  · intro free
    refine governs_of_groups fun capture member own => ?_
    obtain ⟨group, named, rfl⟩ := mem_capturesOf.1 member
    subst own
    by_cases handwritten : expansion.Handwritten group
    · rcases free with none | apart
      · rw [none]
        exact Expansion.hintOf?_of_handwritten expanded handwritten
      · exact absurd rfl (apart group named handwritten)
    · exact Expansion.hintOf?_eq_declared? expanded handwritten

/-- What compiles once it is known how the expression is expanded. -/
theorem compile_of_nests [Regex.Engine] {text : List Char} {final : Naming}
    (nests : Expansion.Nests library namedOnly settings.maxDepth [] {} expression.toList text final)
    (read : Regex.ofString? (.ofList text) (settings.sizeLimit.getD Regex.Expr.defaultLimit) =
      .ok regex) :
    compile library expression namedOnly settings = .ok ⟨expression, namedOnly, regex,
      capturesOf ⟨[], final.captures, final.fieldHints⟩ regex⟩ := by
  have whole := Expansion.expand_nested library expression namedOnly settings.maxDepth
  rw [Expansion.nested_eq_ok_iff.2 nests] at whole
  obtain ⟨expansion, expanded, source, captures, fieldHints⟩ := whole
  refine compile_eq_ok_iff.2 ⟨expansion, regex, expanded, source ▸ read, ?_⟩
  simp only [capturesOf, Expansion.fieldOf, Expansion.hintOf?, captures, fieldHints]

/-- A library for digits. -/
def digits : Library := (Library.withBuiltin false).insert "N" "[0-9]"

theorem nests_digits : Expansion.Nests digits true 1000 [] {} "%{N:a.b:int}(?P<a.b>[0-9])".toList
    "(?P<a___b>[0-9])(?P<a.b>[0-9])".toList
    ⟨(∅ : TreeMap String String).insert "a___b" "a.b",
      (∅ : TreeMap String Hint).insert "a.b" .int⟩ := by
  have split : Token.first? "%{N:a.b:int}(?P<a.b>[0-9])".toList =
      some ⟨[], ⟨"N", some "a.b", some "int"⟩, "(?P<a.b>[0-9])".toList⟩ := by decide +kernel
  have found : digits.lookup? "N" = some "[0-9]" := by decide +kernel
  have entered : Naming.enter {} ⟨"N", some "a.b", some "int"⟩ true =
      .ok (some "a___b", ⟨(∅ : TreeMap String String).insert "a___b" "a.b",
        (∅ : TreeMap String Hint).insert "a.b" .int⟩) := by
    have carried : FieldName.isReserved "a.b" = false := by decide +kernel
    have fresh : Expansion.freshGroup (Expansion.namesOf ∅) (FieldName.encode "a.b") =
        "a___b" := by decide +kernel
    exact Naming.enter_field carried fresh
  exact .token split List.not_mem_nil (by decide) found entered (.plain (by decide +kernel))
    (.plain (by decide +kernel))

theorem regex_digits : ∃ regex, Regex.ofString? "(?P<a___b>[0-9])(?P<a.b>[0-9])" = .ok regex ∧
    regex.groups.toList = [none, some "a___b", some "a.b"] ∧
    regex.matchText? "12" = some [some ['1', '2'], some ['1'], some ['2']] := by
  have read : (Regex.ofString? "(?P<a___b>[0-9])(?P<a.b>[0-9])").toOption.map
      (fun regex => (regex.groups.toList, regex.matchText? "12")) =
      some ([none, some "a___b", some "a.b"],
        some [some ['1', '2'], some ['1'], some ['2']]) := by decide +kernel
  cases found : Regex.ofString? "(?P<a___b>[0-9])(?P<a.b>[0-9])" with
  | error e => rw [found] at read; cases read
  | ok regex =>
    rw [found] at read
    exact ⟨regex, rfl, by simpa [Except.toOption] using read⟩

theorem compile_of_digits [Regex.Engine]
    (read : Regex.ofString? "(?P<a___b>[0-9])(?P<a.b>[0-9])" = .ok regex)
    (groups : regex.groups.toList = [none, some "a___b", some "a.b"]) : ∃ matcher : Matcher,
    compile digits "%{N:a.b:int}(?P<a.b>[0-9])" true {} = .ok matcher ∧ matcher.regex = regex ∧
    matcher.captures = [none, some ⟨"a.b", some .int⟩, some ⟨"a.b", none⟩] := by
  have stand : capturesOf ⟨[], (∅ : TreeMap String String).insert "a___b" "a.b",
      (∅ : TreeMap String Hint).insert "a.b" .int⟩ regex =
      [none, some ⟨"a.b", some .int⟩, some ⟨"a.b", none⟩] := by
    rw [capturesOf, groups]
    decide +kernel
  exact ⟨_, compile_of_nests nests_digits read, rfl, stand⟩

/-- A group that is written by hand stands for the field of a token here. -/
theorem compile_digits : ∃ matcher : Matcher,
    compile digits "%{N:a.b:int}(?P<a.b>[0-9])" true {} = .ok matcher ∧
    matcher.captures = [none, some ⟨"a.b", some .int⟩, some ⟨"a.b", none⟩] ∧
    matcher.regex.matchText? "12" = some [some ['1', '2'], some ['1'], some ['2']] := by
  obtain ⟨regex, read, groups, matched⟩ := regex_digits
  obtain ⟨matcher, compiled, rfl, stand⟩ := compile_of_digits read groups
  exact ⟨matcher, compiled, stand, matched⟩

theorem compile_governs_digits : ∃ matcher : Matcher,
    compile digits "%{N:a.b:int}(?P<a.b>[0-9])" true {} = .ok matcher ∧
    ∃ expansion : Expansion,
      digits.expand "%{N:a.b:int}(?P<a.b>[0-9])" true 1000 = .ok expansion ∧
      matcher.source = expansion.source ∧
      Opens digits (Token.all "%{N:a.b:int}(?P<a.b>[0-9])") expansion.tokens ∧
      ∀ field, matcher.Governs field (declared? true expansion.tokens field) ↔
        declared? true expansion.tokens field = none ∨
        ∀ group, some group ∈ matcher.regex.groups.toList → expansion.Handwritten group →
          expansion.fieldOf group ≠ field := by
  obtain ⟨matcher, compiled, _⟩ := compile_digits
  exact ⟨matcher, compiled, compile_governs_iff digits _ true {} matcher compiled⟩

/-- The text of a group that is written by hand stays a text, though the tokens of its field have
    declared a number: the matcher tells that hint, and the raw text is a number. -/
theorem typed_by_hand : ∃ matcher : Matcher,
    compile digits "%{N:a.b:int}(?P<a.b>[0-9])" true {} = .ok matcher ∧
    matcher.captures = [none, some ⟨"a.b", some .int⟩, some ⟨"a.b", none⟩] ∧
    matcher.hint? "a.b" = some .int ∧ (matcher.parse "12").result["a.b"]? = some "2" ∧
    Capture.convert ⟨"a.b", some .int⟩ "2" = .ok (.int 2) ∧
    ∃ values, (matcher.parseTyped "12").result = .ok values ∧
      values["a.b"]? = some (.text "2") := by
  obtain ⟨matcher, compiled, stand, matched⟩ := compile_digits
  refine ⟨matcher, compiled, stand, by simp [hint?, stand], ?_, by decide +kernel, ?_⟩
  · simp [result_parse, matched, fields, present, stand]
  · refine ⟨TreeMap.ofList [("a.b", Value.text "2")], ?_, by decide +kernel⟩
    simp [result_parseTyped, matched, values_eq, winners, present, stand, place, entry,
      Capture.convert, Except.map]

end Matcher

end LogSift
