import LogSift.Json.Field
import LogSift.Proofs.Numerals

/-!
Values in JSON and back. The bare text of a value begins with a letter, a quotation mark, a digit or
a minus sign, which tells whether a truth value, a text or a number is to be read; a text is read
character by character from its escapes, and a whole number from its digits. So truth values, whole
numbers and texts come back as they were, each for itself and listed (`Value.readJson_toJson`).
-/

namespace LogSift

/-! ### Digits -/

namespace Decimal

variable {n : Nat} {c : Char} {cs : List Char}

theorem Digital.isDigit (digital : Digital cs) : ∀ c ∈ cs, c.isDigit = true := by
  intro c member
  simpa [Char.isDigit, Char.le_def] using digital.digits c member

/-- Digits begin with one. -/
theorem Digital.exists_cons (digital : Digital cs) :
    ∃ c rest, cs = c :: rest ∧ c.isDigit = true := by
  obtain ⟨c, rest, rfl⟩ := List.exists_cons_of_ne_nil digital.nonempty
  exact ⟨c, rest, rfl, digital.isDigit c (List.mem_cons_self ..)⟩

theorem not_mem_of_isDigit {others : List Char} (digit : c.isDigit = true)
    (none : others.all (!·.isDigit) = true) : c ∉ others := by
  intro member
  have different := List.all_eq_true.1 none c member
  simp [digit] at different

theorem natDigits_zero : natDigits 0 = ['0'] := by
  rw [natDigits]
  rfl

/-- No number but zero begins with a zero. -/
theorem natDigits_of_pos (positive : 0 < n) : ∃ c cs, natDigits n = c :: cs ∧ c ≠ '0' := by
  induction n using natDigits.induct with
  | case1 n small =>
    rw [natDigits, if_pos small]
    exact ⟨_, _, rfl, (by decide : ∀ d < 10, 0 < d → digitChar d ≠ '0') n small positive⟩
  | case2 n large ih =>
    obtain ⟨c, cs, shown, nonzero⟩ := ih (by omega)
    rw [natDigits, if_neg large, shown]
    exact ⟨c, _, rfl, nonzero⟩

/-- A whole number begins with a minus sign or a digit. -/
theorem exists_cons_intDigits (z : Int) :
    ∃ c cs, intDigits z = c :: cs ∧ (c = '-' ∨ c.isDigit = true) := by
  rw [intDigits]
  split
  · exact ⟨_, _, rfl, .inl rfl⟩
  · obtain ⟨c, cs, shown, digit⟩ := (digital_natDigits z.natAbs).exists_cons
    exact ⟨c, cs, shown, .inr digit⟩

end Decimal

namespace Json

open Decimal (natDigits intDigits)

variable {c : Char} {cs rest : List Char} {n : Nat} {z : Int}

/-- What may follow a value: the end of the text, another item, or the end of a list. -/
inductive Ends : List Char → Prop where
  | whole : Ends []
  | item (rest : List Char) : Ends (',' :: rest)
  | list (rest : List Char) : Ends (']' :: rest)

namespace Quoted

variable {text after : List Char} {codes : List Nat}

theorem read_short {code : Nat} (short : short? c = some code)
    (next : read rest = some (codes, after)) :
    read ('\\' :: c :: rest) = some (code :: codes, after) := by
  have letter : c ≠ 'u' := by rintro rfl; cases short
  simp [read, short, next, letter]

theorem read_self (printed : ¬ c.toNat < 32) (quote : c ≠ '"') (backslash : c ≠ '\\')
    (next : read rest = some (codes, after)) :
    read (c :: rest) = some (c.toNat :: codes, after) := by
  simpa [read, backslash, next] using printed

/-- The number of a control character is read from the four digits of its escape. -/
theorem read?_control : ∀ n < 32,
    Digits.read? 16 ['0', '0', Digits.ofValue (n / 16), Digits.ofValue (n % 16)] = some n := by
  decide

/-- What a character is written as is read as the character. -/
theorem read_escape (next : read rest = some (codes, after)) :
    read (escape c ++ rest) = some (c.toNat :: codes, after) := by
  unfold escape
  split_ifs with quote backslash newline carriage tab backspace feed control
  · subst quote; exact read_short rfl next
  · subst backslash; exact read_short rfl next
  · subst newline; exact read_short rfl next
  · subst carriage; exact read_short rfl next
  · subst tab; exact read_short rfl next
  · rw [backspace]; exact read_short rfl next
  · rw [feed]; exact read_short rfl next
  · simp [read, read?_control c.toNat control, next]
  · exact read_self control quote backslash next

theorem read_write (text rest : List Char) :
    read (text.flatMap escape ++ '"' :: rest) = some (text.map Char.toNat, rest) := by
  induction text with
  | nil => rfl
  | cons c text ih =>
    rw [List.flatMap_cons, List.append_assoc, List.map_cons]
    exact read_escape ih

/-- No character is half of a pair. -/
theorem join_toNat (text : List Char) : join (text.map Char.toNat) = some text := by
  induction text with
  | nil => rfl
  | cons c text ih =>
    have proper : c.toNat < 0xD800 ∨ 0xDFFF < c.toNat := c.valid.imp id And.left
    rw [List.map_cons, join.eq_def]
    simp only [if_neg (show ¬ (0xD800 ≤ c.toNat ∧ c.toNat < 0xDC00) by omega),
      if_neg (show ¬ (0xDC00 ≤ c.toNat ∧ c.toNat < 0xE000) by omega), ih, Char.ofNat_toNat,
      Option.map_some]

end Quoted

namespace Number

/-- Digits are taken up to the end of the value. -/
theorem span_natDigits (n : Nat) (ends : Ends rest) :
    (natDigits n ++ rest).takeWhile Char.isDigit = natDigits n ∧
      (natDigits n ++ rest).dropWhile Char.isDigit = rest := by
  have digits := (Decimal.digital_natDigits n).isDigit
  rw [List.takeWhile_append_of_pos digits, List.dropWhile_append_of_pos digits]
  cases ends <;> exact ⟨List.append_nil _, rfl⟩

theorem readWhole_natDigits (n : Nat) (ends : Ends rest) :
    readWhole (natDigits n ++ rest) = some (natDigits n, rest) := by
  obtain ⟨taken, left⟩ := span_natDigits n ends
  rcases Nat.eq_zero_or_pos n with rfl | positive
  · rw [Decimal.natDigits_zero]
    cases ends <;> rfl
  · obtain ⟨c, cs, shown, nonzero⟩ := Decimal.natDigits_of_pos positive
    rw [shown] at taken left ⊢
    unfold readWhole
    split
    · next zero => exact (nonzero (List.cons.inj zero).1).elim
    · simp only [taken, left, List.isEmpty_cons, Bool.false_eq_true, if_false]

theorem read_intDigits (z : Int) (ends : Ends rest) :
    read (intDigits z ++ rest) = some (⟨z < 0, natDigits z.natAbs, none, none⟩, rest) := by
  have whole := readWhole_natDigits z.natAbs ends
  have fraction : readFraction rest = some (none, rest) := by cases ends <;> rfl
  have exponent : readExponent rest = some (none, rest) := by cases ends <;> rfl
  rw [intDigits]
  split
  · next negative =>
    simp [read, whole, fraction, exponent, negative]
  · next natural =>
    obtain ⟨c, cs, shown, digit⟩ := (Decimal.digital_natDigits z.natAbs).exists_cons
    have unsigned : c ≠ '-' := by rintro rfl; cases digit
    rw [shown] at whole ⊢
    rw [List.cons_append] at whole ⊢
    simp [read, unsigned, whole, fraction, exponent, natural]

end Number

/-! ### Values -/

theorem skipBlank_cons (visible : c ∉ [' ', '\n', '\t', '\r']) :
    skipBlank (c :: cs) = c :: cs := by
  simp_all [skipBlank]

/-- A text is read as a document if it is read to its end with the fuel for its length. -/
theorem ofChars?_of_readValue {json : Json}
    (read : readValue (2 * cs.length + 2) cs = some (json, [])) : ofChars? cs = some json := by
  rw [ofChars?, read]
  rfl

/-- What begins with a digit or a minus sign is read as a number. -/
theorem readValue_number {fuel : Nat} (start : c = '-' ∨ c.isDigit = true) :
    readValue (fuel + 1) (c :: cs) =
      (Number.read (c :: cs)).map fun read => (number read.1, read.2) := by
  have other : c ∉ [' ', '\n', '\t', '\r', '"', '[', '\x7b', 'n', 't', 'f'] := by
    rcases start with rfl | digit
    · decide
    · exact Decimal.not_mem_of_isDigit digit rfl
  rw [readValue, skipBlank_cons fun blank => other (List.mem_append_left _ blank)]
  simp_all

/-- A list is read by its items, if it begins with one. -/
theorem readValue_list {fuel : Nat} (start : c ∉ [' ', '\n', '\t', '\r', ']']) :
    readValue (fuel + 1) ('[' :: c :: cs) =
      (readItems fuel (c :: cs)).map fun read => (array read.1, read.2) := by
  have visible : skipBlank (c :: cs) = c :: cs :=
    skipBlank_cons fun blank => start (List.mem_append_left [']'] blank)
  have opened : skipBlank ('[' :: c :: cs) = '[' :: c :: cs := skipBlank_cons (by decide)
  have inside : c ≠ ']' := by rintro rfl; exact start (by decide)
  rw [readValue, opened]
  simp [visible, inside]

end Json

namespace Value

open Json (Ends readValue readItems)

/-- The document that a value is written as, for all values but floating-point numbers. -/
inductive Document : Value → Json → Prop where
  | bool (b : Bool) : Document (.bool b) (.bool b)
  | int (n : Int64) : Document (.int n)
      (.number ⟨n.toInt < 0, Decimal.natDigits n.toInt.natAbs, none, none⟩)
  | text (s : String) : Document (.text s) (.string (s.toList.map Char.toNat))

variable {value : Value} {json : Json} {values : List Value} {items : List Json} {rest : List Char}

theorem exists_document (exact : value.kind ≠ "float") : ∃ json, Document value json := by
  cases value with
  | bool b => exact ⟨_, .bool b⟩
  | int n => exact ⟨_, .int n⟩
  | float x => exact (exact rfl).elim
  | text s => exact ⟨_, .text s⟩

/-- The document of a value stands for the value. -/
theorem Document.ofJson?_eq (document : Document value json) : ofJson? json = some value := by
  cases document with
  | bool b => rfl
  | int n =>
    have magnitude : Digits.decimal 0 (Decimal.natDigits n.toInt.natAbs) = n.toInt.natAbs :=
      Decimal.decimal_natDigits _
    have low := n.minValue_le_toInt
    have high := n.toInt_le
    have signed : (if n.toInt < 0 then -(n.toInt.natAbs : Int) else n.toInt.natAbs) = n.toInt := by
      split <;> omega
    have proper : 0 ≤ n.toInt ∨ ¬ n.toInt = 0 := by omega
    have whole : wholeOf? ⟨n.toInt < 0, Decimal.natDigits n.toInt.natAbs, none, none⟩ = some n := by
      simp only [wholeOf?, Json.Number.isWhole, Json.Number.magnitude, magnitude,
        decide_eq_true_eq, signed]
      rw [if_pos ⟨rfl, low, high, by simpa using proper⟩, Int64.ofInt_toInt]
    simp [ofJson?, boolOf?, intOf?, whole]
  | text s => simp [ofJson?, boolOf?, intOf?, floatOf?, textOf?, Json.textOf?, Json.Quoted.join_toNat]

/-- The text of a value begins neither with blank nor with a closing bracket. -/
theorem Document.starts (document : Document value json) : ∃ c cs,
    value.toJson.toList = c :: cs ∧ c ∉ [' ', '\n', '\t', '\r', ']'] := by
  cases document with
  | bool b =>
    cases b
    · exact ⟨'f', "alse".toList, rfl, by decide⟩
    · exact ⟨'t', "rue".toList, rfl, by decide⟩
  | int n =>
    obtain ⟨c, cs, shown, start⟩ := Decimal.exists_cons_intDigits n.toInt
    refine ⟨c, cs, by rw [toJson, Decimal.showInt, String.toList_ofList, shown], ?_⟩
    rcases start with rfl | digit
    · decide
    · exact Decimal.not_mem_of_isDigit digit rfl
  | text s =>
    refine ⟨'"', s.toList.flatMap Json.Quoted.escape ++ ['"'], ?_, by decide⟩
    rw [toJson, String.toList_ofList, Json.Quoted.write, List.cons_append]

/-- The text of a value is read as its document, whatever may follow a value. -/
theorem Document.readValue_toJson (document : Document value json) (ends : Ends rest) (fuel : Nat) :
    readValue (fuel + 1) (value.toJson.toList ++ rest) = some (json, rest) := by
  cases document with
  | bool b =>
    have short : "true".length = 4 := rfl
    have long : "false".length = 5 := rfl
    cases b
    · simp [toJson, Json.readValue, Json.skipBlank, Json.readWord, long]
    · simp [toJson, Json.readValue, Json.skipBlank, Json.readWord, short]
  | int n =>
    obtain ⟨c, cs, shown, start⟩ := Decimal.exists_cons_intDigits n.toInt
    have read := Json.Number.read_intDigits n.toInt ends
    rw [toJson, Decimal.showInt, String.toList_ofList]
    rw [shown, List.cons_append] at read ⊢
    rw [Json.readValue_number start, read, Option.map_some]
  | text s =>
    simp [toJson, Json.Quoted.write, Json.readValue, Json.skipBlank, Json.Quoted.read_write]

/-! ### Lists -/

/-- The text of listed values, without the brackets. -/
def listed (values : List Value) : List Char := (",".intercalate (values.map toJson)).toList

theorem toList_listToJson (values : List Value) :
    (listToJson values).toList = '[' :: (listed values ++ [']']) := by
  simp [listToJson, listed]

theorem listed_singleton (value : Value) : listed [value] = value.toJson.toList := by
  simp [listed]

theorem listed_cons_cons (value next : Value) (more : List Value) :
    listed (value :: next :: more) = value.toJson.toList ++ ',' :: listed (next :: more) := by
  simp [listed]

/-- The values after the first one have a comma each. -/
theorem length_le_listed (value : Value) (values : List Value) :
    values.length ≤ (listed (value :: values)).length := by
  induction values generalizing value with
  | nil => exact Nat.zero_le _
  | cons next values ih =>
    have behind := ih next
    rw [listed_cons_cons, List.length_append, List.length_cons, List.length_cons]
    omega

/-- Listed values are read as their documents, with fuel for each item and for the last value. -/
theorem readItems_listed {next : Json} (first : Document value next)
    (others : List.Forall₂ Document values items) {fuel : Nat} (enough : values.length < fuel)
    (rest : List Char) :
    readItems (fuel + 1) (listed (value :: values) ++ ']' :: rest) =
      some (next :: items, rest) := by
  induction others generalizing value next fuel with
  | nil =>
    obtain ⟨fuel, rfl⟩ := Nat.exists_eq_succ_of_ne_zero (Nat.ne_zero_of_lt enough)
    rw [listed_singleton, Json.readItems, first.readValue_toJson (.list rest)]
    rfl
  | cons second others ih =>
    obtain ⟨fuel, rfl⟩ := Nat.exists_eq_succ_of_ne_zero (Nat.ne_zero_of_lt enough)
    have behind := ih second (Nat.lt_of_succ_lt_succ enough)
    rw [listed_cons_cons, List.append_assoc, List.cons_append, Json.readItems,
      first.readValue_toJson (.item _)]
    simp [Json.skipBlank, behind]

theorem Document.listed_starts (first : Document value json) (values : List Value) : ∃ c cs,
    listed (value :: values) = c :: cs ∧ c ∉ [' ', '\n', '\t', '\r', ']'] := by
  obtain ⟨c, cs, shown, start⟩ := first.starts
  cases values with
  | nil => exact ⟨c, cs, by rw [listed_singleton, shown], start⟩
  | cons next values => exact ⟨c, _, by rw [listed_cons_cons, shown, List.cons_append], start⟩

theorem ofString?_listToJson (documents : List.Forall₂ Document values items) :
    Json.ofString? (listToJson values) = some (.array items) := by
  rw [Json.ofString?, toList_listToJson]
  refine Json.ofChars?_of_readValue ?_
  cases documents with
  | nil => simp [listed, Json.readValue, Json.skipBlank]
  | @cons value json values items first others =>
    -- The fuel is by characters, of which there are more than items.
    have short := length_le_listed value values
    have fuel : 2 * ('[' :: (listed (value :: values) ++ [']'])).length + 2 =
        2 * (listed (value :: values)).length + 4 + 1 + 1 := by
      simp only [List.length_cons, List.length_append, List.length_nil]
      omega
    have enough : values.length < 2 * (listed (value :: values)).length + 4 := by omega
    have read := readItems_listed first others enough []
    rw [fuel]
    obtain ⟨c, cs, shown, start⟩ := first.listed_starts values
    rw [shown, List.cons_append] at read ⊢
    rw [Json.readValue_list start, read]
    rfl

theorem exists_documents (exact : ∀ value ∈ values, value.kind ≠ "float") :
    ∃ items, List.Forall₂ Document values items := by
  induction values with
  | nil => exact ⟨[], .nil⟩
  | cons value values ih =>
    obtain ⟨first, others⟩ := List.forall_mem_cons.1 exact
    obtain ⟨json, document⟩ := exists_document first
    obtain ⟨items, documents⟩ := ih others
    exact ⟨json :: items, .cons document documents⟩

theorem listOfJson?_of_documents (documents : List.Forall₂ Document values items) :
    listOfJson? (.array items) = some values := by
  rw [listOfJson?]
  induction documents with
  | nil => rfl
  | cons first others ih => simp [List.mapM_cons, first.ofJson?_eq, ih]

theorem readJson_of_document (document : Document value json) :
    readJson value.toJson = .ok value := by
  have read := document.readValue_toJson .whole (2 * value.toJson.toList.length + 1)
  rw [List.append_nil] at read
  have made : Json.ofString? value.toJson = some json := Json.ofChars?_of_readValue read
  rw [readJson, made, Option.bind_some, document.ofJson?_eq]

/-- Truth values, whole numbers and texts are read back from JSON as what they are, each for itself
    and listed: no text becomes a number or a truth value, and no whole number another one. -/
theorem readJson_toJson (values : List Value) (exact : ∀ value ∈ values, value.kind ≠ "float") :
    readJsonList (listToJson values) = .ok values ∧
      (∀ value ∈ values, readJson value.toJson = .ok value) ∧
      (∀ s value, readJson (text s).toJson = .ok value → value.kind = "string") ∧
      ∀ n value, readJson (int n).toJson = .ok value → value.kind = "int" := by
  refine ⟨?_, ?_, ?_, ?_⟩
  · obtain ⟨items, documents⟩ := exists_documents exact
    rw [readJsonList, ofString?_listToJson documents, Option.bind_some,
      listOfJson?_of_documents documents]
  · intro value member
    obtain ⟨json, document⟩ := exists_document (exact value member)
    exact readJson_of_document document
  · intro s value read
    cases (readJson_of_document (.text s)).symm.trans read
    rfl
  · intro n value read
    cases (readJson_of_document (.int n)).symm.trans read
    rfl

/-- A number and a text of the same digits are told apart. -/
theorem readJson_toJson_digits :
    readJsonList "[1234,\"1234\",true]" = .ok [.int 1234, .text "1234", .bool true] := by
  have number : toJson (.int 1234) = "1234" := by
    simp [toJson, Decimal.showInt, Decimal.intDigits, Decimal.natDigits, Decimal.digitChar]
  have written : listToJson [.int 1234, .text "1234", .bool true] = "[1234,\"1234\",true]" := by
    rw [listToJson, List.map_cons, number]
    decide
  rw [← written]
  exact (readJson_toJson _ (by decide)).1

end Value

end LogSift
