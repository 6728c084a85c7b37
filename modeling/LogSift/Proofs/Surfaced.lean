import LogSift.Proofs.Declared
import LogSift.Proofs.Tokenless
import LogSift.Proofs.Written

/-!
The fields that surface. Where no text writes a group with a name by hand, the groups with names of an
expanded expression are those that tokens have become (`Nests.signed`). So every field that a matcher
tells of or finds is one that an opened token captures (`compile_surfaces`): it is neither the alias of
a repeated field nor the encoded name of a dotted one.
-/

namespace LogSift

open Std (TreeMap)

namespace Expansion

open Regex (Written)
open Regex.Reader (signs mem_signs)

/-- No group with a name is begun in a text. -/
def Unsigned (cs : List Char) : Prop := ∀ sign ∈ signs, ¬ sign.toList <:+: cs

instance (cs : List Char) : Decidable (Unsigned cs) :=
  inferInstanceAs (Decidable (∀ sign ∈ signs, ¬ sign.toList <:+: cs))

/-- If a text begins with a group that has a name, the name is a known one. -/
def Begins (known : String → Prop) (cs : List Char) : Prop :=
  ∀ sign ∈ signs, ∀ after, cs = sign.toList ++ after →
    ∃ name rest, known name ∧ '>' ∉ name.toList ∧ after = name.toList ++ '>' :: rest

/-- All groups with names in a text have known ones. -/
def Signed (known : String → Prop) (cs : List Char) : Prop := ∀ rest, rest <:+ cs → Begins known rest

variable {known other : String → Prop} {cs rest left right : List Char} {c : Char} {name : String}
  {group : Option String}

theorem Unsigned.of_infix (unsigned : Unsigned cs) (part : rest <:+: cs) : Unsigned rest :=
  fun sign member found => unsigned sign member (found.trans part)

theorem Unsigned.signed (unsigned : Unsigned cs) : Signed known cs := by
  rintro rest suffix sign member after rfl
  exact absurd ((List.prefix_append _ _).isInfix.trans suffix.isInfix) (unsigned sign member)

theorem Signed.mono (signed : Signed known cs) (more : ∀ name, known name → other name) :
    Signed other cs := by
  intro rest suffix sign member after split
  obtain ⟨name, behind, told, apart, spelled⟩ := signed rest suffix sign member after split
  exact ⟨name, behind, more name told, apart, spelled⟩

/-- The names of the groups that are written in a text are known. -/
theorem Signed.known_of_written (signed : Signed known cs) (written : Written cs name) : known name := by
  obtain ⟨apart, sign, member, before, after, rfl⟩ := written
  have stands : sign.toList ++ (name.toList ++ '>' :: after) <:+
      before ++ (sign.toList ++ name.toList ++ ['>']) ++ after :=
    ⟨before, by simp⟩
  obtain ⟨same, rest, told, apart', spelled⟩ := signed _ stands sign member _ rfl
  have names : name.toList = same.toList := by
    rw [← (Regex.span_append apart after).1, spelled, (Regex.span_append apart' rest).1]
  rwa [String.toList_inj.1 names]

theorem Signed.begin (signed : Signed known cs) (begins : Begins known (c :: cs)) :
    Signed known (c :: cs) := by
  intro rest suffix
  rcases List.suffix_cons_iff.1 suffix with rfl | suffix
  · exact begins
  · exact signed rest suffix

/-- A character that begins no sign can stand before any text. -/
theorem Signed.cons (signed : Signed known cs) (plain : c ≠ '?') : Signed known (c :: cs) := by
  refine signed.begin fun sign member after split => ?_
  rcases mem_signs.1 member with rfl | rfl
  · exact absurd (List.cons.inj split).1 plain
  · exact absurd (List.cons.inj split).1 plain

theorem Signed.append_left (signed : Signed known cs) (plain : '?' ∉ left) :
    Signed known (left ++ cs) := by
  induction left with
  | nil => exact signed
  | cons c left ih =>
    rw [List.mem_cons, not_or] at plain
    exact (ih plain.2).cons (Ne.symm plain.1)

/-- A character that stands in no sign keeps two texts apart. -/
theorem Signed.append (before : Signed known left) (behind : Signed known (c :: right))
    (apart : ∀ sign ∈ signs, c ∉ sign.toList) : Signed known (left ++ c :: right) := by
  induction left with
  | nil => exact behind
  | cons d left ih =>
    have later := ih fun rest suffix => before rest (suffix.trans (List.suffix_cons d left))
    refine later.begin fun sign member after split => ?_
    have split : d :: left ++ c :: right = sign.toList ++ after := split
    -- The sign ends before the character, so the text before it begins the group.
    rcases List.append_eq_append_iff.1 split with ⟨between, inside, spelled⟩ | ⟨between, inside, rfl⟩
    · cases between with
      | nil =>
        have whole : d :: left = sign.toList ++ [] := by simpa using inside.symm
        obtain ⟨name, rest, _, _, none⟩ := before _ (List.suffix_refl _) sign member [] whole
        simp at none
      | cons e between =>
        obtain ⟨rfl, _⟩ := List.cons.inj spelled
        exact absurd (by simp [inside]) (apart sign member)
    · obtain ⟨name, rest, told, bracket, rfl⟩ :=
        before _ (List.suffix_refl _) sign member between inside
      exact ⟨name, rest ++ c :: right, told, bracket, by simp⟩

/-- The head of a group is that of a known one, or of one without name. -/
theorem Signed.head (signed : Signed known cs)
    (proper : ∀ name, group = some name → known name ∧ '>' ∉ name.toList ∧ '?' ∉ name.toList) :
    Signed known (head group ++ cs) := by
  cases group with
  | none =>
    have colon : Signed known (':' :: cs) := signed.cons (by decide)
    have question : Begins known ('?' :: ':' :: cs) := by
      intro sign member after split
      rcases mem_signs.1 member with rfl | rfl
      · cases split
      · cases split
    exact (colon.begin question).cons (by decide)
  | some name =>
    obtain ⟨told, bracket, plain⟩ := proper name rfl
    have behind : Signed known (name.toList ++ '>' :: cs) := (signed.cons (by decide)).append_left plain
    have letter : Signed known ('P' :: '<' :: (name.toList ++ '>' :: cs)) :=
      (behind.cons (by decide)).cons (by decide)
    have question : Begins known ('?' :: 'P' :: '<' :: (name.toList ++ '>' :: cs)) := by
      intro sign member after split
      rcases mem_signs.1 member with rfl | rfl
      · exact ⟨name, cs, told, bracket, by simpa using split.symm⟩
      · cases split
    simpa [Expansion.head] using (letter.begin question).cons (by decide : '(' ≠ '?')

/-! ### Expansions -/

variable {library : Library} {expression : String} {namedOnly : Bool} {maxDepth : Nat}
  {openNames : List String} {naming entry final : Naming} {token : Token} {text expanded : List Char}
  {expansion : Expansion}

/-- The texts that expansion copies from: the expression, and the bodies that it leads to. -/
inductive Origin (library : Library) (expression : String) : String → Prop where
  | expression : Origin library expression expression
  | body {name body : String} (reached : library.Reach (Token.patterns expression) name)
      (found : library.lookup? name = some body) : Origin library expression body

theorem Naming.keeps (entered : naming.enter token namedOnly = .ok (group, entry))
    (told : naming.captures.contains name = true) : entry.captures.contains name = true := by
  rcases Naming.enter_cases entered with ⟨_, _, rfl⟩ | ⟨_, _, _, _, captures, _⟩
  · exact told
  · simp [captures, told]

theorem Naming.contains_of_enter (entered : naming.enter token namedOnly = .ok (some name, entry)) :
    entry.captures.contains name = true := by
  rcases Naming.enter_cases entered with ⟨_, none, _⟩ | ⟨_, _, _, same, captures, _⟩
  · cases none
  · cases same
    simp [captures]

/-- What is named stays named. -/
theorem Nests.keeps (nests : Nests library namedOnly maxDepth openNames naming text expanded final)
    (told : naming.captures.contains name = true) : final.captures.contains name = true := by
  induction nests with
  | plain => exact told
  | token _ _ _ _ entered _ _ inside behind => exact behind (inside (Naming.keeps entered told))

/-- Texts that write no group with a name lead to one in which tokens have named all such groups. -/
theorem Nests.signed (nests : Nests library namedOnly maxDepth openNames naming text expanded final)
    (unsigned : Unsigned text)
    (bodies : ∀ name body, library.Reach ((Token.tokens text).map (·.pattern)) name →
      library.lookup? name = some body → Unsigned body.toList) :
    Signed (final.captures.contains · = true) expanded := by
  induction nests with
  | plain => exact unsigned.signed
  | @token _ _ _ _ _ text before after inner later token body group split _ _ found entered inside
      behind ihInside ihBehind =>
    obtain ⟨wellFormed, spelled⟩ := Token.first?_eq_append split
    dsimp only at wellFormed spelled
    have tokens := Token.tokens_of_some split
    rw [tokens, List.map_cons] at bodies
    have unsignedAfter : Unsigned after :=
      unsigned.of_infix (spelled ▸ (List.suffix_append _ _).isInfix)
    have unsignedBefore : Unsigned before :=
      unsigned.of_infix (spelled ▸ ⟨[], token.chars ++ after, by simp⟩)
    have here : library.Reach (token.pattern :: (Token.tokens after).map (·.pattern)) token.pattern :=
      ⟨_, List.mem_cons_self, .refl⟩
    have signedInner := ihInside (bodies _ _ here found) fun name text reached told => by
      obtain ⟨root, member, path⟩ := reached
      exact bodies name text ⟨_, List.mem_cons_self, path.head ⟨body, found, member⟩⟩ told
    have signedLater := ihBehind unsignedAfter fun name text reached told => by
      obtain ⟨root, member, path⟩ := reached
      exact bodies name text ⟨root, List.mem_cons_of_mem _ member, path⟩ told
    -- The text is put together from behind, at characters that stand in no sign.
    have closed : Signed _ (inner ++ ')' :: later) :=
      (signedInner.mono fun name told => behind.keeps told).append (signedLater.cons (by decide))
        (by decide)
    have headed : Signed _ (head group ++ (inner ++ ')' :: later)) := closed.head fun name named => by
      subst named
      have chars := isGroupChar_of_enter wellFormed entered
      refine ⟨behind.keeps (inside.keeps (Naming.contains_of_enter entered)), fun bracket => ?_,
        fun question => ?_⟩
      · exact absurd (chars _ bracket) (by decide)
      · exact absurd (chars _ question) (by decide)
    obtain ⟨rest, opening⟩ := head_eq_cons group
    rw [opening, List.cons_append] at headed
    simpa [opening] using unsignedBefore.signed.append headed (by decide)

/-- The groups that are written in an expanded expression are those of tokens. -/
theorem captured_of_written [Regex.Engine]
    (expanded : library.expand expression namedOnly maxDepth = .ok expansion)
    (unsigned : ∀ text, Origin library expression text → Unsigned text.toList)
    (written : Written expansion.source.toList name) : ∃ token field,
      (token, some name) ∈ expansion.openings ∧ token.fieldName? namedOnly = some field ∧
        expansion.fieldOf name = field := by
  have nests := nested_eq_ok_iff.1 (nested_of_expand expanded)
  have signed := nests.signed (unsigned _ .expression) fun _ body reached found =>
    unsigned body (.body reached found)
  have known : expansion.captures.contains name = true := signed.known_of_written written
  rw [TreeMap.contains_eq_isSome_getElem?] at known
  obtain ⟨field, told⟩ := Option.isSome_iff_exists.1 known
  obtain ⟨token, opened, captures⟩ := ((records_of_expand expanded).fields name field).1 told
  exact ⟨token, field, opened, captures, by simp [fieldOf, told]⟩

end Expansion

namespace Matcher

open Expansion (Opens Origin Unsigned)

variable {library : Library} {expression : String} {namedOnly : Bool} {settings : Settings}
  {matcher : Matcher} {field : String}

/-- A field that a matcher tells of, or finds in an input. -/
inductive Shows (matcher : Matcher) (field : String) : Prop where
  | told (named : field ∈ matcher.fieldNames)
  | text {text : String} (found : field ∈ (matcher.parse text).result)
  | bytes {bytes : List UInt8} (found : field ∈ (matcher.parseBytes bytes).result)
  | typed {text : String} {values : TreeMap String Value}
      (converted : (matcher.parseTyped text).result = .ok values) (found : field ∈ values)
  | typedBytes {bytes : List UInt8} {values : TreeMap String Value}
      (converted : (matcher.parseTypedBytes bytes).result = .ok values) (found : field ∈ values)

/-- A field that is found stands for a group. -/
theorem exists_capture_of_mem_fields {α β : Type} {groups : List (Option (List α))}
    {read : List α → β} (found : field ∈ matcher.fields groups read) :
    ∃ capture, some capture ∈ matcher.captures ∧ capture.field = field := by
  obtain ⟨⟨capture, raw⟩, member, own⟩ := mem_fields.1 found
  exact ⟨capture, (mem_of_winner? (mem_winners.1 member)).1, own⟩

theorem Shows.capture (shown : matcher.Shows field) :
    ∃ capture, some capture ∈ matcher.captures ∧ capture.field = field := by
  have ofText {text : String} (found : field ∈ (matcher.parse text).result) :
      ∃ capture, some capture ∈ matcher.captures ∧ capture.field = field := by
    rw [result_parse] at found
    split at found
    · simp at found
    · exact exists_capture_of_mem_fields found
  have ofBytes {bytes : List UInt8} (found : field ∈ (matcher.parseBytes bytes).result) :
      ∃ capture, some capture ∈ matcher.captures ∧ capture.field = field := by
    rw [result_parseBytes] at found
    split at found
    · simp at found
    · exact exists_capture_of_mem_fields found
  cases shown with
  | told named => exact mem_fieldNames.1 named
  | text found => exact ofText found
  | bytes found => exact ofBytes found
  | typed converted found => exact ofText (((matcher.follows_text _).keys _ converted field).1 found)
  | typedBytes converted found =>
    exact ofBytes (((matcher.follows_bytes _).keys _ converted field).1 found)

/-- If no text that expansion copies from writes a group with a name, then every field that the
    matcher tells of, and every field that it finds in any input, is the one that some opened token
    captures. Where only tokens with a field capture, the token has this field. -/
theorem compile_surfaces [Regex.Engine] (library : Library) (expression : String) (namedOnly : Bool)
    (settings : Settings) (matcher : Matcher)
    (compiled : compile library expression namedOnly settings = .ok matcher)
    (unsigned : ∀ text, Origin library expression text → Unsigned text.toList) :
    ∃ expansion : Expansion,
      library.expand expression namedOnly settings.maxDepth = .ok expansion ∧
      Opens library (Token.all expression) expansion.tokens ∧
      ∀ field, matcher.Shows field → ∃ token ∈ expansion.tokens,
        token.fieldName? namedOnly = some field ∧ (namedOnly = true → token.field = some field) := by
  obtain ⟨expansion, regex, expanded, read, rfl⟩ := compile_eq_ok_iff.1 compiled
  refine ⟨expansion, expanded, Expansion.opens_of_expand expanded, fun field shown => ?_⟩
  obtain ⟨capture, member, rfl⟩ := shown.capture
  obtain ⟨group, listed, rfl⟩ := mem_capturesOf.1 member
  obtain ⟨token, field, opened, captures, own⟩ :=
    Expansion.captured_of_written expanded unsigned (Regex.written_of_mem_groups read listed)
  refine ⟨token, List.mem_map.2 ⟨_, opened, rfl⟩, ?_, ?_⟩
  · rw [captures]
    exact congrArg some own.symm
  · rintro rfl
    rw [← Token.fieldName?_true, captures]
    exact congrArg some own.symm

/-- A dotted field that is captured twice. -/
def twice : String := "%\x7bA:x.y\x7d%\x7bA:x.y\x7d"

/-- The second of the groups has an alias, and both have placeholders for the dot. -/
theorem nests_twice : ∃ final, Expansion.Nests Expansion.letters true 1 [] {} twice.toList
    "(?P<x___y>a)(?P<x___y__2>a)".toList final := by
  have carried : FieldName.isReserved "x.y" = false := by decide +kernel
  have split₁ : Token.first? twice.toList =
      some ⟨[], ⟨"A", some "x.y", none⟩, "%\x7bA:x.y\x7d".toList⟩ := by decide +kernel
  have split₂ : Token.first? "%\x7bA:x.y\x7d".toList = some ⟨[], ⟨"A", some "x.y", none⟩, []⟩ := by
    decide +kernel
  have fresh₁ : Expansion.freshGroup (Expansion.namesOf ∅) (FieldName.encode "x.y") =
      "x___y" := by decide +kernel
  have fresh₂ : Expansion.freshGroup (Expansion.namesOf ((∅ : TreeMap String String).insert "x___y" "x.y"))
      (FieldName.encode "x.y") = "x___y__2" := by decide +kernel
  have found : Expansion.letters.lookup? "A" = some "a" := by decide +kernel
  have plain : Token.first? "a".toList = none := by decide +kernel
  have nests : Expansion.Nests Expansion.letters true 1 [] {} twice.toList _ _ :=
    Expansion.nests_group split₁ found plain carried fresh₁ Nat.one_pos <|
      Expansion.nests_group split₂ found plain carried fresh₂ Nat.one_pos <| .plain rfl
  have spelled : [] ++ Expansion.head (some "x___y") ++ "a".toList ++ ")".toList ++
      ([] ++ Expansion.head (some "x___y__2") ++ "a".toList ++ ")".toList ++ []) =
      "(?P<x___y>a)(?P<x___y__2>a)".toList := by decide +kernel
  exact ⟨_, spelled ▸ nests⟩

theorem compile_twice : ∃ matcher : Matcher,
    compile Expansion.letters twice true { maxDepth := 1 } = .ok matcher ∧
    matcher.regex.groups.toList = [none, some "x___y", some "x___y__2"] := by
  obtain ⟨final, nests⟩ := nests_twice
  have read : (Regex.ofString? "(?P<x___y>a)(?P<x___y__2>a)").toOption.map (·.groups.toList) =
      some [none, some "x___y", some "x___y__2"] := by decide +kernel
  cases found : Regex.ofString? "(?P<x___y>a)(?P<x___y__2>a)" with
  | error e => rw [found] at read; cases read
  | ok regex =>
    rw [found] at read
    have compiled : compile Expansion.letters twice true { maxDepth := 1 } =
        .ok ⟨twice, true, regex, _⟩ := compile_of_nests nests found
    exact ⟨_, compiled, Option.some.inj read⟩

/-- The fields of the matcher are those of tokens, whatever its groups are called. -/
theorem compile_surfaces_twice : ∃ matcher : Matcher,
    compile Expansion.letters twice true { maxDepth := 1 } = .ok matcher ∧
    matcher.regex.groups.toList = [none, some "x___y", some "x___y__2"] ∧
    ∃ expansion : Expansion,
      Expansion.letters.expand twice true 1 = .ok expansion ∧
      Opens Expansion.letters (Token.all twice) expansion.tokens ∧
      ∀ field, matcher.Shows field → ∃ token ∈ expansion.tokens,
        token.fieldName? true = some field ∧ (true = true → token.field = some field) := by
  obtain ⟨matcher, compiled, groups⟩ := compile_twice
  have unsigned : ∀ text, Origin Expansion.letters twice text → Unsigned text.toList := by
    rintro text (_ | ⟨⟨root, member, path⟩, found⟩)
    · decide +kernel
    · have roots : Token.patterns twice = ["A", "A"] := by decide +kernel
      have body : Expansion.letters.lookup? "A" = some "a" := by decide +kernel
      obtain rfl : root = "A" := by simpa [roots] using member
      -- The body refers to nothing, so no other name is reached.
      rcases path.cases_head with rfl | ⟨next, ⟨inner, told, refers⟩, _⟩
      · cases body.symm.trans found
        decide +kernel
      · cases body.symm.trans told
        have none : Token.patterns "a" = [] := by decide +kernel
        rw [none] at refers
        cases refers
  exact ⟨matcher, compiled, groups, compile_surfaces _ twice true _ matcher compiled unsigned⟩

end Matcher

end LogSift
