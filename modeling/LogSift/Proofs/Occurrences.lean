import LogSift.Proofs.Grammar

/-!
The places of tokens in texts. The places that are found are those of all parts of a text that are
tokens by themselves (`mem_occurrences`), from left to right and apart from each other
(`occurrences_ascend`): a percent sign stands only at the beginning of a token, so tokens cannot
overlap, and no token is hidden by a part of a text that almost is one (`first?_or_later`).
-/

namespace LogSift.Token

open Unicode (isWord)

/-- How tokens are spelled. -/
inductive Spells : String → Token → Prop where
  | bare {pattern : String} (name : IsRun isWord pattern) :
      Spells ("%\x7b" ++ pattern ++ "\x7d") ⟨pattern, none, none⟩
  | named {pattern field : String} (name : IsRun isWord pattern) (fills : IsRun isFieldChar field) :
      Spells ("%\x7b" ++ pattern ++ ":" ++ field ++ "\x7d") ⟨pattern, some field, none⟩
  | typed {pattern field type : String} (name : IsRun isWord pattern)
      (fills : IsRun isFieldChar field) (declares : IsRun isWord type) :
      Spells ("%\x7b" ++ pattern ++ ":" ++ field ++ ":" ++ type ++ "\x7d")
        ⟨pattern, some field, some type⟩

/-- A part of a text, from one offset in bytes to another, is a token. -/
def StandsIn (text : String) (place : Occurrence) : Prop :=
  ∃ before part after : String, text = before ++ part ++ after ∧
    place.start = before.utf8ByteSize ∧ place.stop = (before ++ part).utf8ByteSize ∧
    ofString? part = some place.token

variable {cs left right before after : List Char} {text : String} {token : Token} {split : Split}
  {place : Occurrence} {base : Nat}

/-! ### Whole texts -/

theorem ofChars?_eq_some_iff : ofChars? cs = some token ↔ token.WellFormed ∧ cs = token.chars := by
  have whole := @read?_eq_some_iff cs [] token
  rw [List.append_nil] at whole
  rw [← whole, ofChars?]
  constructor
  · intro found
    split at found
    · next read =>
      cases found
      exact read
    · cases found
  · intro read
    rw [read]

theorem spells_iff : Spells text token ↔ token.WellFormed ∧ text.toList = token.chars := by
  constructor
  · intro spells
    cases spells with
    | bare name => exact ⟨⟨name, by simp, by simp, by simp⟩, by simp [chars]⟩
    | named name fills => exact ⟨⟨name, by simpa using fills, by simp, by simp⟩, by simp [chars]⟩
    | typed name fills declares =>
      exact ⟨⟨name, by simpa using fills, by simpa using declares, by simp⟩, by simp [chars]⟩
  · rintro ⟨⟨name, fills, declares, typed⟩, spelled⟩
    obtain ⟨pattern, _ | field, _ | type⟩ := token
    · obtain rfl : text = "%\x7b" ++ pattern ++ "\x7d" :=
        String.toList_inj.1 (by simp [spelled, chars])
      exact .bare name
    · simp at typed
    · obtain rfl : text = "%\x7b" ++ pattern ++ ":" ++ field ++ "\x7d" :=
        String.toList_inj.1 (by simp [spelled, chars])
      exact .named name (fills field rfl)
    · obtain rfl : text = "%\x7b" ++ pattern ++ ":" ++ field ++ ":" ++ type ++ "\x7d" :=
        String.toList_inj.1 (by simp [spelled, chars])
      exact .typed name (fills field rfl) (declares type rfl)

/-- A text is read as a token if and only if it is spelled like the token. -/
theorem ofString?_eq_some_iff : ofString? text = some token ↔ Spells text token := by
  rw [ofString?, ofChars?_eq_some_iff, spells_iff]

/-! ### The next token -/

/-- A percent sign stands at the beginning of a token and nowhere else in it. -/
theorem WellFormed.chars_eq_cons (wellFormed : token.WellFormed) :
    ∃ rest, token.chars = '%' :: rest ∧ '%' ∉ rest := by
  have noField : isFieldChar '%' = false := by decide
  have noWord : isWord '%' = false := by decide
  have inPattern : '%' ∉ token.pattern.toList := fun member => by
    simp [wellFormed.pattern.2 _ member] at noWord
  have inField : ∀ text ∈ token.field, '%' ∉ text.toList := fun text some member => by
    simp [(wellFormed.field text some).2 _ member] at noField
  have inType : ∀ text ∈ token.type, '%' ∉ text.toList := fun text some member => by
    simp [(wellFormed.type text some).2 _ member] at noWord
  refine ⟨_, rfl, ?_⟩
  obtain ⟨pattern, field, type⟩ := token
  cases field <;> cases type <;> simp_all

/-- A token anywhere in a text is the first one of the text, or stands behind it. -/
theorem first?_or_later (found : first? cs = some split) (wellFormed : token.WellFormed)
    (stands : cs = before ++ token.chars ++ after) :
    split = ⟨before, token, after⟩ ∨
      ∃ between, before = split.before ++ split.token.chars ++ between ∧
        split.after = between ++ token.chars ++ after := by
  induction cs generalizing before split with
  | nil => cases found
  | cons c cs ih =>
    rw [first?] at found
    split at found
    · next first rest read =>
      cases found
      obtain ⟨firstFormed, spelled⟩ := read?_eq_some_iff.1 read
      cases before with
      | nil =>
        rw [read?_eq_some_iff.2 ⟨wellFormed, stands⟩] at read
        cases read
        exact .inl rfl
      | cons d before =>
        -- The token does not begin inside the first one, which has no second percent sign.
        obtain ⟨tail, firstChars, single⟩ := firstFormed.chars_eq_cons
        obtain ⟨_, tokenChars, _⟩ := wellFormed.chars_eq_cons
        have same : d :: (before ++ (token.chars ++ after)) = '%' :: (tail ++ rest) := by
          rw [firstChars] at spelled
          simpa using stands.symm.trans spelled
        obtain ⟨rfl, meet⟩ := List.cons_eq_cons.1 same
        rcases List.append_eq_append_iff.1 meet with
          ⟨beyond, inside, behind⟩ | ⟨between, rfl, behind⟩
        · cases beyond with
          | nil =>
            rw [List.append_nil] at inside
            exact .inr ⟨[], by simp [firstChars, inside], by simpa using behind.symm⟩
          | cons e beyond =>
            rw [tokenChars] at behind
            obtain ⟨rfl, _⟩ := List.cons_eq_cons.1 behind
            exact absurd (by simp [inside]) single
        · exact .inr ⟨between, by simp [firstChars], by rw [behind, List.append_assoc]⟩
    · next unread =>
      obtain ⟨inner, foundInner, rfl⟩ := Option.map_eq_some_iff.1 found
      cases before with
      | nil =>
        rw [read?_eq_some_iff.2 ⟨wellFormed, stands⟩] at unread
        cases unread
      | cons d before =>
        obtain ⟨rfl, behind⟩ := List.cons_eq_cons.1 stands
        rcases ih foundInner behind with rfl | ⟨between, rfl, rest⟩
        · exact .inl rfl
        · exact .inr ⟨between, rfl, rest⟩

/-- A text with a token in it has a first token. -/
theorem first?_ne_none (wellFormed : token.WellFormed)
    (stands : cs = before ++ token.chars ++ after) : first? cs ≠ none := by
  subst stands
  induction before with
  | nil =>
    obtain ⟨tail, spelled, _⟩ := wellFormed.chars_eq_cons
    intro none
    rw [List.nil_append, spelled, List.cons_append, first?_cons_eq_none, ← List.cons_append,
      ← spelled, read?_eq_some_iff.2 ⟨wellFormed, rfl⟩] at none
    cases none.1
  | cons c before ih =>
    intro none
    exact ih (first?_cons_eq_none.1 none).2

/-! ### Offsets -/

@[simp] theorem byteLength_nil : byteLength [] = 0 := rfl

@[simp] theorem byteLength_cons (c : Char) : byteLength (c :: cs) = c.utf8Size + byteLength cs := rfl

@[simp] theorem byteLength_append : byteLength (left ++ right) = byteLength left + byteLength right := by
  induction left with
  | nil => simp
  | cons c left ih => simp [ih, Nat.add_assoc]

/-- The bytes of a text are those of its characters. -/
theorem utf8ByteSize_ofList (cs : List Char) : (String.ofList cs).utf8ByteSize = byteLength cs := by
  induction cs with
  | nil => rfl
  | cons c cs ih =>
    rw [← List.singleton_append, String.ofList_append, String.utf8ByteSize_append, ih,
      ← String.singleton_eq_ofList, String.utf8ByteSize_singleton, List.singleton_append,
      byteLength_cons]

theorem utf8ByteSize_eq (text : String) : text.utf8ByteSize = byteLength text.toList := by
  rw [← utf8ByteSize_ofList, String.ofList_toList]

/-! ### Places -/

theorem splits_of_none (none : first? cs = none) : splits cs = [] := by
  rw [splits]
  grind

theorem splits_of_some (found : first? cs = some split) :
    splits cs = split :: splits split.after := by
  rw [splits]
  grind

/-- The places that are found are those of all tokens. -/
theorem mem_locate : place ∈ locate base (splits cs) ↔
    ∃ before after, cs = before ++ place.token.chars ++ after ∧ place.token.WellFormed ∧
      place.start = base + byteLength before ∧
      place.stop = place.start + byteLength place.token.chars := by
  induction cs using splits.induct generalizing base with
  | case1 cs none =>
    rw [splits_of_none none]
    constructor
    · intro member
      cases member
    · rintro ⟨before, after, stands, wellFormed, _⟩
      exact absurd none (first?_ne_none wellFormed stands)
  | case2 cs split found ih =>
    obtain ⟨wellFormed, text⟩ := first?_eq_append found
    rw [splits_of_some found, locate, List.mem_cons, ih]
    constructor
    · rintro (rfl | ⟨before, after, stands, formed, start, stop⟩)
      · exact ⟨split.before, split.after, text, wellFormed, rfl, rfl⟩
      · refine ⟨split.before ++ split.token.chars ++ before, after, ?_, formed, ?_, stop⟩
        · rw [text, stands]
          simp
        · simp [start, Nat.add_assoc]
    · rintro ⟨before, after, stands, formed, start, stop⟩
      rcases first?_or_later found formed stands with rfl | ⟨between, rfl, rest⟩
      · refine .inl ?_
        rw [← start, ← stop]
      · exact .inr ⟨between, after, rest, formed, by simp [start, Nat.add_assoc], stop⟩

/-- Places begin where others have ended or later. -/
theorem locate_ascend (base : Nat) (cs : List Char) :
    (locate base (splits cs)).Pairwise fun one other => one.stop ≤ other.start := by
  induction cs using splits.induct generalizing base with
  | case1 cs none =>
    rw [splits_of_none none]
    exact .nil
  | case2 cs split found ih =>
    rw [splits_of_some found, locate, List.pairwise_cons]
    refine ⟨fun place member => ?_, ih _⟩
    obtain ⟨before, _, _, _, start, _⟩ := mem_locate.1 member
    rw [start]
    exact Nat.le_add_right ..

/-- The places that are found in a text are those of all its parts that are tokens. -/
theorem mem_occurrences : place ∈ occurrences text ↔ StandsIn text place := by
  rw [occurrences, mem_locate]
  constructor
  · rintro ⟨before, after, stands, formed, start, stop⟩
    refine ⟨.ofList before, .ofList place.token.chars, .ofList after, ?_, ?_, ?_, ?_⟩
    · rw [← String.ofList_append, ← String.ofList_append, ← stands, String.ofList_toList]
    · simpa [utf8ByteSize_ofList] using start
    · simpa [utf8ByteSize_ofList, start] using stop
    · rw [ofString?, String.toList_ofList]
      exact ofChars?_eq_some_iff.2 ⟨formed, rfl⟩
  · rintro ⟨before, part, after, rfl, start, stop, read⟩
    obtain ⟨formed, spelled⟩ := ofChars?_eq_some_iff.1 read
    refine ⟨before.toList, after.toList, by simp [spelled], formed, ?_, ?_⟩
    · rw [start, utf8ByteSize_eq, Nat.zero_add]
    · rw [stop, start, String.utf8ByteSize_append, utf8ByteSize_eq part, spelled]

/-- The place of a token is not empty. -/
theorem start_lt_stop (member : place ∈ occurrences text) : place.start < place.stop := by
  obtain ⟨_, _, _, formed, _, stop⟩ := mem_locate.1 member
  obtain ⟨tail, spelled, _⟩ := formed.chars_eq_cons
  have percent := Char.utf8Size_pos '%'
  rw [stop, spelled, byteLength_cons]
  omega

/-- Places are found from left to right, none of them within another. -/
theorem occurrences_ascend (text : String) :
    (occurrences text).Pairwise fun one other => one.stop ≤ other.start :=
  locate_ascend 0 text.toList

end LogSift.Token
