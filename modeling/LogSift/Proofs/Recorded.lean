import LogSift.Matcher.Request

/-!
How the count goes through the search of an input. Each way to search one records it once, and what it
comes to does not hang on what has been counted before. Values are converted one after the other; the
first that cannot be ends this, so however many of them could not, one failure is counted
(`charges_values`).
-/

namespace LogSift

open Std (TreeMap)

variable {α β : Type}

/-! ### Conversions -/

/-- The count after a conversion that came to a result. -/
def Tally.charged (tally : Tally) : Except Error α → Tally
  | .ok _ => tally
  | .error _ => tally.recordFailure

/-- A conversion comes to a result, and to one failure if that is an error, from every count. -/
def Charges (conversion : ExceptT Error Counting α) (result : Except Error α) : Prop :=
  ∀ tally, conversion.run.run tally = (result, tally.charged result)

namespace Charges

theorem result {conversion : ExceptT Error Counting α} {result : Except Error α}
    (charges : Charges conversion result) : Counting.result conversion.run = result :=
  congrArg Prod.fst (charges {})

/-- Two conversions that come to one result are the same. -/
theorem unique {conversion other : ExceptT Error Counting α} {result : Except Error α}
    (charges : Charges conversion result) (others : Charges other result) : conversion = other :=
  funext fun tally => (charges tally).trans (others tally).symm

theorem pure (value : α) : Charges (Pure.pure value) (.ok value) := fun _ => rfl

theorem run_bind (first : ExceptT Error Counting α) (next : α → ExceptT Error Counting β)
    (tally : Tally) : (first >>= next).run.run tally =
      match first.run.run tally with
      | (.ok value, after) => (next value).run.run after
      | (.error e, after) => (.error e, after) := by
  unfold ExceptT.run StateT.run
  simp only [bind, ExceptT.bind, ExceptT.mk, StateT.bind, ExceptT.bindCont]
  cases first tally with
  | mk result after => cases result <;> rfl

/-- What fails is not followed by anything, and what does not has counted nothing. -/
theorem bind {first : ExceptT Error Counting α} {next : α → ExceptT Error Counting β}
    {result : Except Error α} {onward : α → Except Error β} (charges : Charges first result)
    (later : ∀ value, Charges (next value) (onward value)) :
    Charges (first >>= next) (result >>= onward) := by
  intro tally
  rw [run_bind, charges tally]
  cases result with
  | error e => rfl
  | ok value => exact later value tally

theorem mapM {next : α → ExceptT Error Counting β} {onward : α → Except Error β}
    (each : ∀ value, Charges (next value) (onward value)) (values : List α) :
    Charges (values.mapM next) (values.mapM onward) := by
  induction values with
  | nil => exact .pure []
  | cons value rest ih =>
    rw [List.mapM_cons, List.mapM_cons]
    exact (each value).bind fun first => ih.bind fun others => .pure (first :: others)

end Charges

theorem Capture.charges_converting (capture : Capture) (raw : String) :
    Charges (capture.converting raw) (capture.convert raw) := by
  intro tally
  unfold converting
  cases capture.convert raw <;> rfl

/-! ### Inputs -/

/-- The count after an input, going by whether it matched, and whether a value of it could not be
    converted. -/
def Tally.noted (tally : Tally) (met failed : Bool) : Tally :=
  if failed then (tally.record met).recordFailure else tally.record met

/-- Something comes to the same from every count, and counts one input. -/
def Counting.Notes (counting : Counting α) (met failed : Bool) : Prop :=
  ∀ tally, counting.run tally = (counting.result, tally.noted met failed)

theorem Counting.Notes.map {counting : Counting α} {met failed : Bool}
    (notes : counting.Notes met failed) (f : α → β) (tally : Tally) :
    (f <$> counting).run tally = (f counting.result, tally.noted met failed) := by
  rw [StateT.run_map, notes tally]
  rfl

/-- The inputs of a batch are counted one by one, and come to what each of them does. -/
theorem Counting.Notes.mapM {next : α → Counting β} {met failed : α → Bool}
    (each : ∀ value, (next value).Notes (met value) (failed value)) (values : List α)
    (tally : Tally) : (values.mapM next).run tally =
      (values.map fun value => (next value).result,
        values.foldl (fun tally value => tally.noted (met value) (failed value)) tally) := by
  induction values generalizing tally with
  | nil => rfl
  | cons value rest ih =>
    rw [List.mapM_cons, StateT.run_bind, each value tally]
    show (rest.mapM next >>= fun others => Pure.pure ((next value).result :: others)).run _ = _
    rw [StateT.run_bind, ih]
    rfl

namespace Matcher

variable {matcher : Matcher} {groups : List (Option (List α))} {decode : List α → String}

/-- The value of a winning group, with its field. -/
def entry (decode : List α → String) (won : Capture × List α) : Except Error (String × Value) :=
  (won.1.convert (decode won.2)).map fun value => (won.1.field, value)

/-- The values of fields are those of their winning groups. If one of these has none, one failure is
    counted, however many have none. -/
theorem charges_values (matcher : Matcher) (groups : List (Option (List α)))
    (decode : List α → String) : Charges (matcher.values groups decode)
      (((matcher.winners groups).mapM (entry decode)).map fun pairs => .ofList pairs) := by
  have each (won : Capture × List α) : Charges
      (do return (won.1.field, ← won.1.converting (decode won.2))) (entry decode won) := by
    have charges := (won.1.charges_converting (decode won.2)).bind fun value =>
      .pure (won.1.field, value)
    unfold entry
    cases value : won.1.convert (decode won.2) <;> rw [value] at charges <;> exact charges
  have whole := (Charges.mapM each (matcher.winners groups)).bind fun pairs =>
    .pure (TreeMap.ofList pairs)
  cases pairs : (matcher.winners groups).mapM (entry decode) <;> rw [pairs] at whole <;> exact whole

theorem values_eq : (matcher.values groups decode).run.result =
    ((matcher.winners groups).mapM (entry decode)).map fun pairs => .ofList pairs :=
  (matcher.charges_values groups decode).result

/-- The values of groups are the same from every count. -/
theorem values_run (matcher : Matcher) (groups : List (Option (List α)))
    (decode : List α → String) (tally : Tally) : (matcher.values groups decode).run.run tally =
      ((matcher.values groups decode).run.result,
        tally.charged (matcher.values groups decode).run.result) := by
  rw [values_eq]
  exact matcher.charges_values groups decode tally

variable (matcher : Matcher) (text : String) (bytes : List UInt8)

theorem notes_test : (matcher.test text).Notes (matcher.regex.matchText? text).isSome false :=
  fun _ => rfl

theorem notes_testBytes :
    (matcher.testBytes bytes).Notes (matcher.regex.matchBytes? bytes).isSome false :=
  fun _ => rfl

theorem notes_parse : (matcher.parse text).Notes (matcher.regex.matchText? text).isSome false := by
  intro tally
  unfold parse
  cases matcher.regex.matchText? text <;> rfl

theorem notes_parseBytes :
    (matcher.parseBytes bytes).Notes (matcher.regex.matchBytes? bytes).isSome false := by
  intro tally
  unfold parseBytes
  cases matcher.regex.matchBytes? bytes <;> rfl

theorem result_parse : (matcher.parse text).result =
    match matcher.regex.matchText? text with
    | none => ∅
    | some groups => matcher.fields groups String.ofList := by
  unfold parse
  cases matcher.regex.matchText? text <;> rfl

theorem result_parseBytes : (matcher.parseBytes bytes).result =
    match matcher.regex.matchBytes? bytes with
    | none => ∅
    | some groups => matcher.fields groups id := by
  unfold parseBytes
  cases matcher.regex.matchBytes? bytes <;> rfl

theorem result_parseTyped : (matcher.parseTyped text).result =
    match matcher.regex.matchText? text with
    | none => .ok ∅
    | some groups => (matcher.values groups String.ofList).run.result := by
  unfold parseTyped
  cases matcher.regex.matchText? text with
  | none => rfl
  | some groups =>
    show ((matcher.values groups String.ofList).run.run _).1 = _
    rw [values_run]

theorem result_parseTypedBytes : (matcher.parseTypedBytes bytes).result =
    match matcher.regex.matchBytes? bytes with
    | none => .ok ∅
    | some groups => (matcher.values groups Utf8.decodeLossy).run.result := by
  unfold parseTypedBytes
  cases matcher.regex.matchBytes? bytes with
  | none => rfl
  | some groups =>
    show ((matcher.values groups Utf8.decodeLossy).run.run _).1 = _
    rw [values_run]

theorem noted_true (tally : Tally) (result : Except Error α) :
    (tally.record true).charged result = tally.noted true (!result.isOk) := by
  cases result <;> rfl

theorem notes_parseTyped : (matcher.parseTyped text).Notes
    (matcher.regex.matchText? text).isSome (!(matcher.parseTyped text).result.isOk) := by
  intro tally
  rw [result_parseTyped]
  unfold parseTyped
  cases matcher.regex.matchText? text with
  | none => rfl
  | some groups =>
    rw [Option.isSome_some, ← noted_true]
    exact matcher.values_run groups String.ofList (tally.record true)

theorem notes_parseTypedBytes : (matcher.parseTypedBytes bytes).Notes
    (matcher.regex.matchBytes? bytes).isSome (!(matcher.parseTypedBytes bytes).result.isOk) := by
  intro tally
  rw [result_parseTypedBytes]
  unfold parseTypedBytes
  cases matcher.regex.matchBytes? bytes with
  | none => rfl
  | some groups =>
    rw [Option.isSome_some, ← noted_true]
    exact matcher.values_run groups Utf8.decodeLossy (tally.record true)

/-! ### Questions -/

/-- A question about an input. -/
abbrev Trial := Query × Input

/-- Does the expression match in an input? -/
def meets (matcher : Matcher) : Input → Bool
  | .text s => (matcher.regex.matchText? s).isSome
  | .bytes bs => (matcher.regex.matchBytes? bs).isSome

/-- The typed reading of an input. -/
def typed (matcher : Matcher) : Input → Except Error (TreeMap String Value)
  | .text s => (matcher.parseTyped s).result
  | .bytes bs => (matcher.parseTypedBytes bs).result

/-- Is a question refused, which only one about values can be? -/
def refuses (matcher : Matcher) : Trial → Bool
  | (.values, input) => !(matcher.typed input).isOk
  | (.isMatch, _) | (.fields, _) => false

/-- The answer to a question. -/
def reply (matcher : Matcher) : Trial → Reply
  | (.isMatch, input) => .flag (matcher.meets input)
  | (.fields, .text s) => .fields (matcher.parse s).result
  | (.fields, .bytes bs) => .byteFields (matcher.parseBytes bs).result
  | (.values, input) => .values (matcher.typed input)

/-- Whatever has been counted, a question has one answer, and is counted as one input and, where it is
    refused, as one failure. -/
theorem answerQuery_run (matcher : Matcher) (tally : Tally) (query : Query) (input : Input) :
    matcher.answerQuery tally query input =
      (matcher.reply (query, input),
        tally.noted (matcher.meets input) (matcher.refuses (query, input))) := by
  match query, input with
  | .isMatch, .text s => exact (matcher.notes_test s).map _ tally
  | .isMatch, .bytes bs => exact (matcher.notes_testBytes bs).map _ tally
  | .fields, .text s => exact (matcher.notes_parse s).map _ tally
  | .fields, .bytes bs => exact (matcher.notes_parseBytes bs).map _ tally
  | .values, .text s => exact (matcher.notes_parseTyped s).map _ tally
  | .values, .bytes bs => exact (matcher.notes_parseTypedBytes bs).map _ tally

end Matcher

end LogSift
