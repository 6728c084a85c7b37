import LogSift.Proofs.Declared
import LogSift.Proofs.Encoding
import LogSift.Proofs.Winners

/-!
Texts and bytes. A matcher asks of the pieces that groups matched only whether they are empty, and
the bytes of a piece are empty if and only if the piece is. So where the search finds the same spans
in a text and in its bytes, the winning groups are the same, and what is asked of the text and of
the bytes has the same answers and counts (`interfaces_agree`). The typed reading of any bytes loses
no field of the raw one.
-/

namespace LogSift

open Std (TreeMap)
open Utf8 (encode encodeChars offset decodeLossy)

namespace Regex

/-- Where a group of a text begins and ends in the bytes of the text. -/
def byteSpan (text : String) (span : Span) : Span :=
  (offset text.toList span.1, offset text.toList span.2)

/-- The search finds the same in a text and in its bytes: nothing, or groups with the same spans,
    counted in characters and in bytes. -/
def SameSpans (regex : Regex) (text : String) : Prop :=
  regex.match? (.ofBytes (encode text)) =
    (regex.match? (.ofText text.toList.toArray)).map fun spans => spans.map (·.map (byteSpan text))

/-- Where the spans are the same, groups match the bytes of what they match in the text. -/
theorem matchBytes?_encode {regex : Regex} {text : String} (same : regex.SameSpans text) :
    regex.matchBytes? (encode text) = (regex.matchText? text).map (·.map (·.map encodeChars)) := by
  have translated : regex.match? (.ofBytes (encode text)) = _ := same
  simp only [matchBytes?, matchText?, translated, Option.map_map]
  refine congrArg (Option.map · (regex.match? _)) (funext fun spans => ?_)
  simp only [Function.comp_apply, List.map_map]
  refine List.map_congr_left fun span _ => ?_
  cases span with
  | none => rfl
  | some span => exact congrArg some (Utf8.encode_eq text ▸ Utf8.encodeChars_extract ..)

end Regex

namespace Matcher

variable {α β : Type} {matcher : Matcher} {groups : List (Option (List α))} {f : List α → List β}
  {text field : String}

/-! ### Pieces in another form -/

/-- A group with what it matched in another form. -/
def recast (f : List α → List β) (won : Capture × List α) : Capture × List β := (won.1, f won.2)

theorem present_map (faithful : ∀ raw, f raw = [] ↔ raw = []) :
    matcher.present (groups.map (·.map f)) = (matcher.present groups).map (recast f) := by
  unfold present
  rw [← List.map_id matcher.captures, List.zip_map, List.filterMap_map, List.map_filterMap,
    List.map_id]
  refine List.filterMap_congr fun pair _ => ?_
  rcases pair with ⟨_ | capture, _ | raw⟩
  · rfl
  · rfl
  · rfl
  · by_cases empty : raw = []
    · simp [empty, (faithful []).2 rfl]
    · have kept : f raw ≠ [] := fun none => empty ((faithful raw).1 none)
      simp [empty, kept, recast]

theorem place_map (capture : Capture) (raw : List α) (found : List (Capture × List α)) :
    place capture (f raw) (found.map (recast f)) = (place capture raw found).map (recast f) := by
  induction found with
  | nil => rfl
  | cons first found ih =>
    obtain ⟨other, old⟩ := first
    by_cases same : other.field = capture.field
    · simp [place, recast, same]
    · simp [place, recast, same, ← ih]

/-- The same groups win, whatever form pieces have. -/
theorem winners_map (faithful : ∀ raw, f raw = [] ↔ raw = []) :
    matcher.winners (groups.map (·.map f)) = (matcher.winners groups).map (recast f) := by
  unfold winners
  rw [present_map faithful]
  have each (found won : List (Capture × List α)) :
      (found.map (recast f)).foldl (fun won pair => place pair.1 pair.2 won) (won.map (recast f)) =
        (found.foldl (fun won pair => place pair.1 pair.2 won) won).map (recast f) := by
    induction found generalizing won with
    | nil => rfl
    | cons pair found ih =>
      rw [List.map_cons, List.foldl_cons, List.foldl_cons, ← ih]
      exact congrArg (List.foldl _ · _) (place_map pair.1 pair.2 won)
  exact each (matcher.present groups) []

theorem values_map (faithful : ∀ raw, f raw = [] ↔ raw = []) (read : List β → String) :
    matcher.values (groups.map (·.map f)) read = matcher.values groups (read ∘ f) := by
  have charges := matcher.charges_values (groups.map (·.map f)) read
  rw [winners_map faithful, List.mapM_map] at charges
  exact charges.unique (matcher.charges_values groups (read ∘ f))

theorem winner?_map (faithful : ∀ raw, f raw = [] ↔ raw = []) :
    matcher.winner? (groups.map (·.map f)) field = (matcher.winner? groups field).map (recast f) := by
  rw [winner?_eq_last?, winner?_eq_last?, present_map faithful, last?, last?, ← List.map_reverse,
    List.find?_map]
  rfl

/-! ### Texts and their bytes -/

theorem testBytes_encode (same : matcher.regex.SameSpans text) :
    matcher.testBytes (encode text) = matcher.test text := by
  unfold testBytes test
  rw [Regex.matchBytes?_encode same]
  cases matcher.regex.matchText? text <;> rfl

theorem parseTypedBytes_encode (same : matcher.regex.SameSpans text) :
    matcher.parseTypedBytes (encode text) = matcher.parseTyped text := by
  have readBack : decodeLossy ∘ encodeChars = String.ofList := funext Utf8.decodeLossy_encodeChars
  unfold parseTypedBytes parseTyped
  rw [Regex.matchBytes?_encode same]
  cases matcher.regex.matchText? text with
  | none => rfl
  | some groups =>
    simp only [Option.map_some]
    rw [values_map (fun raw => Utf8.encodeChars_eq_nil), readBack]

/-- The raw reading of bytes has the bytes of every text that the raw reading of the text has. -/
theorem getElem?_fields_encode (groups : List (Option (List Char))) :
    (matcher.fields (groups.map (·.map encodeChars)) id)[field]? =
      (matcher.fields groups String.ofList)[field]?.map encode := by
  rw [getElem?_fields, getElem?_fields, winner?_map fun raw => Utf8.encodeChars_eq_nil,
    Option.map_map, Option.map_map]
  refine congrArg (Option.map · _) (funext fun won => ?_)
  exact (Utf8.encode_ofList won.2).symm

/-- What is asked of a text and of its bytes has the same answers and counts. -/
structure Agrees (matcher : Matcher) (text : String) (tally : Tally) : Prop where
  isMatch : matcher.answerQuery tally .isMatch (.bytes (encode text)) =
    matcher.answerQuery tally .isMatch (.text text)
  fields : ∃ (fields : TreeMap String String) (byteFields : TreeMap String (List UInt8))
      (after : Tally), matcher.answerQuery tally .fields (.text text) = (.fields fields, after) ∧
    matcher.answerQuery tally .fields (.bytes (encode text)) = (.byteFields byteFields, after) ∧
    ∀ field : String, byteFields[field]? = fields[field]?.map encode
  values : matcher.answerQuery tally .values (.bytes (encode text)) =
    matcher.answerQuery tally .values (.text text)

/-- The typed reading of bytes has the fields of the raw one, and empties none. -/
structure Keeps (matcher : Matcher) (bytes : List UInt8) (values : TreeMap String Value) : Prop where
  fields : ∀ field, field ∈ values ↔ field ∈ (matcher.parseBytes bytes).result
  nonempty : ∀ (field : String) (raw : List UInt8),
    (matcher.parseBytes bytes).result[field]? = some raw → raw ≠ [] ∧ decodeLossy raw ≠ ""
  filled : ∀ field : String, values[field]? ≠ some (.text "")

theorem agrees_of_sameSpans (same : matcher.regex.SameSpans text) (tally : Tally) :
    matcher.Agrees text tally := by
  refine ⟨?_, ?_, ?_⟩
  · simp only [answerQuery, testBytes_encode same]
  · simp only [answerQuery, parse, parseBytes, Regex.matchBytes?_encode same]
    cases matcher.regex.matchText? text with
    | none => exact ⟨∅, ∅, _, rfl, rfl, fun field => by simp⟩
    | some groups => exact ⟨_, _, _, rfl, rfl, fun field => getElem?_fields_encode groups⟩
  · simp only [answerQuery, parseTypedBytes_encode same]

theorem ne_nil_of_parseBytes {bytes raw : List UInt8}
    (found : (matcher.parseBytes bytes).result[field]? = some raw) : raw ≠ [] := by
  rw [result_parseBytes] at found
  cases groups : matcher.regex.matchBytes? bytes with
  | none => simp [groups] at found
  | some groups' =>
    simp only [groups, getElem?_fields, Option.map_eq_some_iff] at found
    obtain ⟨won, found, rfl⟩ := found
    exact (mem_of_winner? found).2

theorem mapError_map_eq_ok {δ ε ε' : Type} {result : Except ε δ} {g : δ → Value} {refuse : ε → ε'}
    {value : Value} (converted : (result.map g).mapError refuse = .ok value) :
    ∃ x, g x = value := by
  cases result with
  | error e => cases converted
  | ok x => exact ⟨x, Except.ok.inj converted⟩

/-- Only conversion to a text gives a text, and that is the one converted. -/
theorem eq_of_convert_text {capture : Capture} {raw s : String}
    (converted : capture.convert raw = .ok (.text s)) : raw = s := by
  obtain ⟨field, hint⟩ := capture
  cases hint with
  | none => exact Value.text.inj (Except.ok.inj converted)
  | some hint =>
    cases hint with
    | text => exact Value.text.inj (Except.ok.inj converted)
    | int =>
      obtain ⟨n, ⟨⟩⟩ := mapError_map_eq_ok converted
    | float => obtain ⟨x, ⟨⟩⟩ := mapError_map_eq_ok converted
    | bool => obtain ⟨b, ⟨⟩⟩ := mapError_map_eq_ok converted
    | unsupported word => cases converted

theorem keeps_of_values {bytes : List UInt8} {values : TreeMap String Value}
    (converted : (matcher.parseTypedBytes bytes).result = .ok values) :
    matcher.Keeps bytes values := by
  have follows := matcher.follows_bytes bytes
  have nonempty (field : String) (raw : List UInt8)
      (found : (matcher.parseBytes bytes).result[field]? = some raw) :
      raw ≠ [] ∧ decodeLossy raw ≠ "" :=
    have some := ne_nil_of_parseBytes found
    ⟨some, fun empty => some (Utf8.decodeLossy_eq_empty.1 empty)⟩
  refine ⟨follows.keys values converted, nonempty, fun field found => ?_⟩
  have member : field ∈ (matcher.parseBytes bytes).result := by
    rw [← follows.keys values converted, TreeMap.mem_iff_isSome_getElem?, found]
    rfl
  rw [TreeMap.mem_iff_isSome_getElem?, Option.isSome_iff_exists] at member
  obtain ⟨raw, told⟩ := member
  obtain ⟨value, became, held⟩ := follows.values values converted field raw told
  cases held.symm.trans found
  exact (nonempty field raw told).2 (eq_of_convert_text became)

/-- What is asked of a text and of its bytes has the same answers and counts, if the search finds
    the same spans in both; and the typed reading of any bytes loses no field of the raw one. -/
theorem interfaces_agree (matcher : Matcher) :
    (∀ text, matcher.regex.SameSpans text → ∀ tally, matcher.Agrees text tally) ∧
    ∀ bytes values, (matcher.parseTypedBytes bytes).result = .ok values →
      matcher.Keeps bytes values :=
  ⟨fun _ same tally => agrees_of_sameSpans same tally, fun _ _ => keeps_of_values⟩

/-- In a text that begins with a character of two bytes, the spans begin one byte later. -/
theorem spans_digits : ∃ regex, Regex.ofString? "(?P<a___b>[0-9])(?P<a.b>[0-9])" = .ok regex ∧
    regex.groups.toList = [none, some "a___b", some "a.b"] ∧
    regex.match? (.ofText "é12".toList.toArray) = some [some (1, 3), some (1, 2), some (2, 3)] ∧
    regex.SameSpans "é12" ∧
    regex.matchBytes? [255, 49, 50] = some [some [49, 50], some [49], some [50]] := by
  have spans : (Regex.ofString? "(?P<a___b>[0-9])(?P<a.b>[0-9])").toOption.map (fun regex =>
      (regex.match? (.ofText "é12".toList.toArray),
        regex.match? (.ofBytes (encodeChars "é12".toList)))) =
      some (some [some (1, 3), some (1, 2), some (2, 3)],
        some [some (2, 4), some (2, 3), some (3, 4)]) := by decide +kernel
  have pieces : (Regex.ofString? "(?P<a___b>[0-9])(?P<a.b>[0-9])").toOption.map (fun regex =>
      (regex.groups.toList, regex.matchBytes? [255, 49, 50])) =
      some ([none, some "a___b", some "a.b"], some [some [49, 50], some [49], some [50]]) := by
    decide +kernel
  cases found : Regex.ofString? "(?P<a___b>[0-9])(?P<a.b>[0-9])" with
  | error e => rw [found] at spans; cases spans
  | ok regex =>
    rw [found, Except.toOption, Option.map_some, Option.some.injEq, Prod.mk.injEq] at spans pieces
    obtain ⟨inText, inBytes⟩ := spans
    obtain ⟨groups, matched⟩ := pieces
    have same : regex.SameSpans "é12" := by
      rw [Regex.SameSpans, Utf8.encode_eq, inText, inBytes]
      decide +kernel
    exact ⟨regex, rfl, groups, inText, same, matched⟩

theorem interfaces_agree_digits : ∃ matcher : Matcher,
    compile digits "%{N:a.b:int}(?P<a.b>[0-9])" true {} = .ok matcher ∧
    matcher.regex.match? (.ofText "é12".toList.toArray) =
      some [some (1, 3), some (1, 2), some (2, 3)] ∧
    matcher.regex.SameSpans "é12" ∧ matcher.Agrees "é12" ⟨3, 2, 1⟩ ∧
    ∃ values, (matcher.parseTypedBytes [255, 49, 50]).result = .ok values ∧
      values["a.b"]? = some (.text "2") ∧ matcher.Keeps [255, 49, 50] values := by
  obtain ⟨regex, read, groups, inText, same, matched⟩ := spans_digits
  obtain ⟨matcher, compiled, rfl, captures⟩ := compile_of_digits read groups
  have decoded : decodeLossy [50] = "2" := by decide +kernel
  have converted : (matcher.parseTypedBytes [255, 49, 50]).result =
      .ok (.ofList [("a.b", Value.text "2")]) := by
    simp [result_parseTypedBytes, matched, values_eq, winners, present, captures, place,
      entry, Capture.convert, Except.map, decoded]
  have agree := interfaces_agree matcher
  exact ⟨matcher, compiled, inText, same, agree.1 "é12" same ⟨3, 2, 1⟩, _, converted,
    by decide +kernel, agree.2 _ _ converted⟩

end Matcher

end LogSift
