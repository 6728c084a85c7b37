import LogSift.Proofs.Spliced
import LogSift.Proofs.Written

/-!
Fields as names of groups. A token may name fields that no group can be named after: a dot is written
with lines, but a sign of addition, a number at the beginning or a mark stay as they are. A token of
such a field expands, and the expression that it expands to is refused (`compile_field`).
-/

namespace LogSift

open Unicode (isAlphabetic isAlphanumeric)

/-! ### Names -/

namespace FieldName

/-- A field that a group can be named after: it has lines, dots, letters and digits, and does not begin
    with a digit. -/
structure Nameable (field : String) : Prop where
  start : ∀ c ∈ field.toList.head?, c = '_' ∨ c = '.' ∨ isAlphabetic c = true
  rest : ∀ c ∈ field.toList, c = '_' ∨ c = '.' ∨ isAlphanumeric c = true

instance (field : String) : Decidable (Nameable field) :=
  decidable_of_iff
    ((field.toList.head?.toList.all fun c => c == '_' || c == '.' || isAlphabetic c) = true ∧
      (field.toList.all fun c => c == '_' || c == '.' || isAlphanumeric c) = true)
    ⟨fun ⟨start, rest⟩ => ⟨by simpa [or_assoc] using start, by simpa [or_assoc] using rest⟩,
      fun ⟨start, rest⟩ => ⟨by simpa [or_assoc] using start, by simpa [or_assoc] using rest⟩⟩

variable {c : Char} {cs : List Char} {field : String}

theorem isNameChar_iff (allowed : Token.isFieldChar c = true) (noDot : c ≠ '.') :
    Regex.Reader.isNameChar c = true ↔ c = '_' ∨ c = '.' ∨ isAlphanumeric c = true := by
  have noOpening : c ≠ '[' := by
    rintro rfl
    exact absurd allowed (by decide)
  have noClosing : c ≠ ']' := by
    rintro rfl
    exact absurd allowed (by decide)
  simp [Regex.Reader.isNameChar, noDot, noOpening, noClosing]

theorem encodeChars_cons (noDot : c ≠ '.') (cs : List Char) :
    encodeChars (c :: cs) = c :: encodeChars cs := encodeChars.eq_3 _ _ noDot

theorem encodeChars_ne_nil (nonempty : field ≠ "") : encodeChars field.toList ≠ [] := by
  have nonempty : field.toList ≠ [] := by simpa using nonempty
  obtain ⟨c, cs, spelled⟩ := List.exists_cons_of_ne_nil nonempty
  rw [spelled]
  by_cases dot : c = '.'
  · simp [dot, encodeChars]
  · simp [encodeChars_cons dot]

theorem all_encodeChars (allowed : ∀ c ∈ cs, Token.isFieldChar c = true) :
    (encodeChars cs).all Regex.Reader.isNameChar = true ↔
      ∀ c ∈ cs, c = '_' ∨ c = '.' ∨ isAlphanumeric c = true := by
  induction cs with
  | nil => simp [encodeChars]
  | cons c cs ih =>
    have later := ih fun d member => allowed d (List.mem_cons_of_mem _ member)
    rw [List.forall_mem_cons, ← later]
    by_cases dot : c = '.'
    · subst dot
      simp [encodeChars, Regex.Reader.isNameChar]
    · rw [encodeChars_cons dot, List.all_cons, Bool.and_eq_true,
        isNameChar_iff (allowed c List.mem_cons_self) dot]

/-- The encoded name is one for groups if and only if the field is nameable. -/
theorem isName_encodeChars (run : Token.IsRun Token.isFieldChar field) :
    Regex.Reader.isName (encodeChars field.toList) = true ↔ Nameable field := by
  obtain ⟨nonempty, allowed⟩ := run
  have nonempty : field.toList ≠ [] := by simpa using nonempty
  obtain ⟨c, cs, spelled⟩ := List.exists_cons_of_ne_nil nonempty
  rw [spelled, List.forall_mem_cons] at allowed
  have later := all_encodeChars allowed.2
  have nameable : Nameable field ↔ (c = '_' ∨ c = '.' ∨ isAlphabetic c = true) ∧
      ∀ d ∈ c :: cs, d = '_' ∨ d = '.' ∨ isAlphanumeric d = true := by
    constructor
    · intro named
      exact ⟨named.start c (by simp [spelled]), spelled ▸ named.rest⟩
    · rintro ⟨start, rest⟩
      exact ⟨by simpa [spelled] using start, spelled ▸ rest⟩
  rw [nameable, spelled, List.forall_mem_cons, ← later]
  by_cases dot : c = '.'
  · subst dot
    simp [encodeChars, Regex.Reader.isName, Regex.Reader.isNameStart, Regex.Reader.isNameChar]
  · rw [encodeChars_cons dot, Regex.Reader.isName, Regex.Reader.isNameStart, Bool.and_eq_true]
    simp only [dot, isAlphanumeric, Bool.or_eq_true, beq_iff_eq, false_or]
    constructor
    · rintro ⟨start, rest⟩
      exact ⟨start, start.imp_right .inl, rest⟩
    · rintro ⟨start, _, rest⟩
      exact ⟨start, rest⟩

end FieldName

/-! ### Literals in a group with a name -/

namespace Regex.Reader

variable {cs name : List Char} {c : Char}

/-- The characters that do not stand for themselves. -/
def special : List Char := ['(', ')', '|', '[', '?', '*', '+', '\x7b', '\\', '.', '^', '$']

/-- What literal characters are read as. -/
def literal (cs : List Char) : Expr := .seqAll (cs.map .char)

theorem groups_literal (cs : List Char) : (literal cs).groups = [] := by
  simp [literal, Expr.char, Expr.groups]

theorem step_literal (r : Reader) (rest : List Char) (plain : c ∉ special) :
    r.step c rest = (literalItem r.flags c false).map fun item => r.push item rest := by
  unfold step
  split
  -- Each of the characters in front is a special one.
  iterate 12 exact absurd (by decide) plain
  rfl

/-- Literal characters become items, one after another. -/
theorem whole_literal (r : Reader) (rest : List Char) (flags : r.flags = {})
    (plain : ∀ c ∈ cs, c ∉ special) : whole { r with rest := cs ++ rest } =
      whole { r with
        rest
        level := ⟨r.level.branches, (cs.map (⟨.char ·, 0, false⟩)).reverse ++ r.level.items⟩ } := by
  induction cs generalizing r with
  | nil => rfl
  | cons c cs ih =>
    rw [List.forall_mem_cons] at plain
    have begun : r.flags.skip (c :: (cs ++ rest)) = c :: (cs ++ rest) := by rw [flags]; rfl
    have item : literalItem r.flags c false = .ok ⟨.char c, 0, false⟩ := by rw [flags]; rfl
    have later := ih { r with level := r.level.push ⟨.char c, 0, false⟩ } flags plain.2
    rw [List.cons_append, whole_of_skip_eq_cons begun, step_literal _ _ plain.1, item]
    refine later.trans ?_
    simp [Level.push]

theorem heightOf_literal (cs : List Char) :
    Level.heightOf (cs.map (⟨.char ·, 0, false⟩)) = 0 := by
  induction cs with
  | nil => rfl
  | cons c cs ih => simpa [Level.heightOf] using ih

/-- A branch of literal characters is flat. -/
theorem close_literal (cs : List Char) :
    (Level.close ⟨[], (cs.map (⟨.char ·, 0, false⟩)).reverse⟩).expr = literal cs ∧
      (Level.close ⟨[], (cs.map (⟨.char ·, 0, false⟩)).reverse⟩).height ≤ 1 := by
  have flags : (cs.map fun c => (⟨.char c, 0, false⟩ : Item)).filter (fun item => !item.isFlags) =
      cs.map fun c => ⟨.char c, 0, false⟩ := by
    simp
  simp only [Level.close, List.isEmpty_nil, if_true, Level.branch, List.reverse_reverse, flags,
    heightOf_literal]
  refine ⟨?_, by split <;> simp⟩
  simp [literal, Function.comp_def]

/-- A text in a group with a name. -/
def fielded (name cs : List Char) : List Char :=
  ['(', '?', 'P', '<'] ++ (name ++ '>' :: (cs ++ [')']))

theorem whole_fielded (name cs : List Char) : whole { rest := fielded name cs } =
    enterNamed { rest := fielded name cs } (name ++ '>' :: (cs ++ [')'])) >>= whole := by
  have begun : ({} : Flags).skip (fielded name cs) =
      '(' :: '?' :: 'P' :: '<' :: (name ++ '>' :: (cs ++ [')'])) := rfl
  have opened : openGroup { rest := fielded name cs }
      ('?' :: 'P' :: '<' :: (name ++ '>' :: (cs ++ [')']))) =
        enterNamed { rest := fielded name cs } (name ++ '>' :: (cs ++ [')'])) :=
    openGroup_of_name rfl
  rw [whole_of_skip_eq_cons begun]
  exact congrArg (· >>= whole) opened

/-- A reader that has read literal characters in a group with a name. -/
def within (name : String) (cs : List Char) : Reader :=
  { rest := [], groups := 1, names := [name]
    level := ⟨[], (cs.map (⟨.char ·, 0, false⟩)).reverse⟩ }

/-- Literal characters in a group are read if the group has a proper name. -/
theorem read_fielded (proper : isName name = true) (apart : '>' ∉ name)
    (plain : ∀ c ∈ cs, c ∉ special) :
    read (fielded name cs) = .ok (.capture 1 (some (.ofList name)) (literal cs)) := by
  generalize group : some (1, some (String.ofList name)) = capture
  have entered : enterNamed { rest := fielded name cs } (name ++ '>' :: (cs ++ [')'])) =
      .ok ((within (.ofList name) []).amid (cs ++ [')']) (around capture)) :=
    enterNamed_eq_ok_iff.2 ⟨name, cs ++ [')'], rfl, apart, proper, rfl, by rw [← group]; rfl⟩
  have body : ((within (.ofList name) []).amid (cs ++ [')']) (around capture)).whole =
      ((within (.ofList name) cs).amid [')'] (around capture)).whole := by
    have read := whole_literal ((within (.ofList name) []).amid [] (around capture)) [')'] rfl plain
    simpa [within, amid] using read
  obtain ⟨told, flat⟩ := close_literal cs
  have shallow : ¬ maxHeight < (within (.ofList name) cs).level.close.height + 1 := by
    have : maxHeight = 250 := rfl
    have : (within (.ofList name) cs).level.close.height ≤ 1 := flat
    omega
  calc
    read (fielded name cs)
      = ((within (.ofList name) []).amid (cs ++ [')']) (around capture)).whole >>= finish := by
        rw [read_eq, whole_fielded, entered]
        rfl
    _ = ((within (.ofList name) cs).behind capture).finish := by
        rw [body, whole_around rfl]
        rfl
    _ = .ok (grouped capture (literal cs)) := by
        rw [finish_behind, if_neg shallow]
        exact congrArg (fun e => Except.ok (grouped capture e)) told
    _ = .ok (.capture 1 (some (.ofList name)) (literal cs)) := by rw [← group]; rfl

/-- A group whose name is not proper is not read. -/
theorem read_fielded_error (nonempty : name ≠ []) (improper : isName name = false)
    (apart : '>' ∉ name) : read (fielded name cs) = .error .invalidGroupName := by
  obtain ⟨before, behind⟩ := span_append apart (cs ++ [')'])
  have refused : enterNamed { rest := fielded name cs } (name ++ '>' :: (cs ++ [')'])) =
      .error .invalidGroupName := by
    simp [enterNamed, before, behind, nonempty, improper]
  rw [read_eq, whole_fielded, refused]
  rfl

end Regex.Reader

/-! ### Fields of tokens -/

namespace Matcher

open FieldName (Nameable isReserved)
open Regex.Reader (special literal fielded)

variable {library : Library} {name field body : String} {namedOnly : Bool} {settings : Settings}

/-- A token that names a field, as an expression. -/
def capturing (name field : String) : String := .ofList (Token.chars ⟨name, some field, none⟩)

/-- What does not compile since it cannot be expanded. -/
theorem compile_error_of_nested [Regex.Engine] {expression : String} {e : Error}
    (failed : Expansion.nested library namedOnly settings.maxDepth [] {} expression.toList =
      .error e) : compile library expression namedOnly settings = .error e := by
  have whole := Expansion.expand_nested library expression namedOnly settings.maxDepth
  rw [failed] at whole
  simp [compile, whole, bind, Except.bind]

theorem first?_capturing (word : Token.IsName name) (run : Token.IsRun Token.isFieldChar field) :
    Token.first? (capturing name field).toList = some ⟨[], ⟨name, some field, none⟩, []⟩ := by
  rw [capturing, String.toList_ofList]
  exact Token.first?_chars ⟨word, by simpa using run, by simp, by simp⟩

/-- What a field makes of a body: a group of its name around it. -/
def grouping (field body : String) : List Char :=
  fielded (FieldName.encodeChars field.toList) body.toList

/-- What a field names. -/
def naming (field : String) : Expansion.Naming :=
  { captures := (∅ : Std.TreeMap String String).insert (FieldName.encode field) field }

/-- A field that is not reserved becomes the name of a group around the body. -/
theorem nests_capturing {maxDepth : Nat} (word : Token.IsName name)
    (run : Token.IsRun Token.isFieldChar field) (found : library.lookup? name = some body)
    (tokenless : Token.first? body.toList = none) (deep : 0 < maxDepth)
    (free : isReserved field = false) :
    Expansion.Nests library namedOnly maxDepth [] {} (capturing name field).toList
      (grouping field body) (naming field) := by
  have fresh : Expansion.freshGroup (Expansion.namesOf ∅) (FieldName.encode field) =
      FieldName.encode field := rfl
  have nests : Expansion.Nests library namedOnly maxDepth [] {} (capturing name field).toList _
      (naming field) :=
    Expansion.nests_group (first?_capturing word run) found tokenless free fresh deep (.plain rfl)
  simpa [grouping, fielded, Expansion.head, FieldName.encode] using nests

/-- A body of literal characters has no tokens, for these have braces. -/
theorem first?_literal {cs : List Char} (plain : ∀ c ∈ cs, c ∉ special) :
    Token.first? cs = none := by
  cases split : Token.first? cs with
  | none => rfl
  | some found =>
    obtain ⟨_, rfl⟩ := Token.first?_eq_append split
    exact absurd (by decide : '\x7b' ∈ special) (plain '\x7b' (by simp [Token.chars]))

/-- A field that is reserved is not expanded. -/
theorem nested_capturing {maxDepth : Nat} (word : Token.IsName name)
    (run : Token.IsRun Token.isFieldChar field) (found : library.lookup? name = some body)
    (deep : 0 < maxDepth) (lost : isReserved field = true) :
    Expansion.nested library namedOnly maxDepth [] {} (capturing name field).toList =
      .error (.reservedFieldName field) := by
  have refused : Expansion.Naming.enter {} ⟨name, some field, none⟩ namedOnly =
      .error (.reservedFieldName field) := by
    simp [Expansion.Naming.enter, Token.fieldName?, lost]
  have shallow : ¬ maxDepth ≤ ([] : List String).length := Nat.not_le.2 deep
  rw [Expansion.nested_of_some (first?_capturing word run), if_neg List.not_mem_nil, if_neg shallow,
    found]
  simp [refused, bind, Except.bind]

/-- The expression that a field and a body of literal characters become. -/
def fieldExpr (field body : String) : Regex.Expr :=
  .capture 1 (some (FieldName.encode field)) (literal body.toList)

/-- The name of a field's group holds no bracket. -/
theorem bracket_not_mem (run : Token.IsRun Token.isFieldChar field) :
    '>' ∉ FieldName.encodeChars field.toList := by
  intro member
  rcases FieldName.mem_encodeChars member with same | inside
  · cases same
  · exact absurd (run.2 '>' inside) (by decide)

theorem read_nameable (run : Token.IsRun Token.isFieldChar field)
    (plain : ∀ c ∈ body.toList, c ∉ special) (nameable : Nameable field) :
    Regex.Reader.read (grouping field body) = .ok (fieldExpr field body) :=
  Regex.Reader.read_fielded ((FieldName.isName_encodeChars run).2 nameable) (bracket_not_mem run)
    plain

theorem read_unnameable (run : Token.IsRun Token.isFieldChar field) (unnameable : ¬ Nameable field) :
    Regex.Reader.read (grouping field body) = .error .invalidGroupName := by
  have improper := mt (FieldName.isName_encodeChars run).1 unnameable
  exact Regex.Reader.read_fielded_error (FieldName.encodeChars_ne_nil run.1)
    (Bool.eq_false_iff.2 improper) (bracket_not_mem run)

/-- The group of the field is the only one. -/
theorem fieldNames_reading (expression : String) (namedOnly : Bool) (text : List Char)
    (field body : String) :
    (reading expression namedOnly text (naming field) (fieldExpr field body)).fieldNames = [field] := by
  have groups : Regex.groupNames (fieldExpr field body).groups =
      #[none, some (FieldName.encode field)] := by
    simp [fieldExpr, Regex.Expr.groups, Regex.Reader.groups_literal, Regex.groupNames]
    rfl
  simp [fieldNames, reading, capturesOf, groups, Expansion.fieldOf, naming, List.eraseDups_cons]

/-- A token that captures a field with a pattern of literal characters compiles if and only if the
    field is not reserved, a group can be named after it, and the expression is not too large. A reserved
    field is refused as such, and one that no group can be named after with the expression. -/
theorem compile_field [Regex.Engine]
    (library : Library) (name field body : String) (namedOnly : Bool)
    (settings : Settings) (word : Token.IsName name) (run : Token.IsRun Token.isFieldChar field)
    (found : library.lookup? name = some body) (plain : ∀ c ∈ body.toList, c ∉ special)
    (deep : 0 < settings.maxDepth) :
    ((∃ matcher, compile library (capturing name field) namedOnly settings = .ok matcher) ↔
      isReserved field = false ∧ Nameable field ∧
        Regex.Engine.fits (fieldExpr field body)
          (settings.sizeLimit.getD Regex.Expr.defaultLimit) = true) ∧
    (∀ matcher, compile library (capturing name field) namedOnly settings = .ok matcher →
      matcher.fieldNames = [field]) ∧
    (isReserved field = true → compile library (capturing name field) namedOnly settings =
      .error (.reservedFieldName field)) ∧
    (isReserved field = false → ¬ Nameable field →
      compile library (capturing name field) namedOnly settings =
        .error (.invalidExpression
          (Regex.Engine.explain (.ofList (grouping field body)) .invalidGroupName))) := by
  have reserved (lost : isReserved field = true) :
      compile library (capturing name field) namedOnly settings =
        .error (.reservedFieldName field) :=
    compile_error_of_nested (nested_capturing word run found deep lost)
  have unnameable (free : isReserved field = false) (unnameable : ¬ Nameable field) :
      compile library (capturing name field) namedOnly settings =
        .error (.invalidExpression
          (Regex.Engine.explain (.ofList (grouping field body)) .invalidGroupName)) :=
    compile_error_of_nests (nests_capturing word run found (first?_literal plain) deep free)
      (read_unnameable run unnameable)
  have carried (matcher : Matcher)
      (compiled : compile library (capturing name field) namedOnly settings = .ok matcher) :
      isReserved field = false ∧ Nameable field := by
    have free : isReserved field = false := Bool.eq_false_iff.2 fun lost => by
      cases (reserved lost).symm.trans compiled
    refine ⟨free, by_contra fun improper => ?_⟩
    cases (unnameable free improper).symm.trans compiled
  have nameable (free : isReserved field = false) (nameable : Nameable field) (matcher : Matcher) :
      compile library (capturing name field) namedOnly settings = .ok matcher ↔
        Regex.Engine.fits (fieldExpr field body)
            (settings.sizeLimit.getD Regex.Expr.defaultLimit) = true ∧
          matcher = reading (capturing name field) namedOnly
            (grouping field body) (naming field)
            (fieldExpr field body) := by
    rw [compile_eq_ok_iff_read (nests_capturing word run found (first?_literal plain) deep free),
      read_nameable run plain nameable]
    simp
  refine ⟨⟨?_, ?_⟩, ?_, reserved, unnameable⟩
  · rintro ⟨matcher, compiled⟩
    obtain ⟨free, proper⟩ := carried matcher compiled
    exact ⟨free, proper, ((nameable free proper matcher).1 compiled).1⟩
  · rintro ⟨free, proper, fits⟩
    exact ⟨_, (nameable free proper _).2 ⟨fits, rfl⟩⟩
  · intro matcher compiled
    obtain ⟨free, proper⟩ := carried matcher compiled
    obtain ⟨_, rfl⟩ := (nameable free proper matcher).1 compiled
    exact fieldNames_reading _ _ _ field body

/-- A library with one letter. -/
def letter : Library := isolated.insert "P" "x"

theorem isName_letter : Token.IsName "P" := by
  have word : "P".toList.all Unicode.isWord = true := by decide
  exact ⟨by decide, List.all_eq_true.1 word⟩

theorem lookup?_letter : letter.lookup? "P" = some "x" := by
  rw [letter, Library.lookup?_insert, if_pos rfl]

theorem plain_letter : ∀ c ∈ "x".toList, c ∉ special := by
  simpa using (by decide : 'x' ∉ special)

/-- A field with a dot and a number at its end. -/
theorem compile_field_dotted : ∃ matcher : Matcher,
    compile letter "%\x7bP:host.ip4\x7d" true {} = .ok matcher ∧ matcher.fieldNames = ["host.ip4"] := by
  have chars : "host.ip4".toList.all Token.isFieldChar = true := by decide +kernel
  obtain ⟨compiles, names, _⟩ := compile_field letter "P" "host.ip4" "x" true {} isName_letter
    ⟨by decide, List.all_eq_true.1 chars⟩ lookup?_letter plain_letter (by decide)
  have nameable : Nameable "host.ip4" := by decide +kernel
  obtain ⟨matcher, compiled⟩ := compiles.2 ⟨by decide +kernel, nameable, by decide +kernel⟩
  exact ⟨matcher, compiled, names matcher compiled⟩

/-- A field that begins with a number is neither reserved nor of use. -/
theorem compile_field_numbered :
    Token.ofString? "%\x7bP:1st\x7d" = some ⟨"P", some "1st", none⟩ ∧ isReserved "1st" = false ∧
    compile letter "%\x7bP:1st\x7d" true {} =
      .error (.invalidExpression
        (Regex.Engine.explain (.ofList (grouping "1st" "x")) .invalidGroupName)) := by
  have chars : "1st".toList.all Token.isFieldChar = true := by decide +kernel
  have run : Token.IsRun Token.isFieldChar "1st" := ⟨by decide, List.all_eq_true.1 chars⟩
  have free : isReserved "1st" = false := by decide +kernel
  have nests : Expansion.Nests letter true 1000 [] {} (capturing "P" "1st").toList
      (grouping "1st" "x") (naming "1st") :=
    nests_capturing isName_letter run lookup?_letter (by decide +kernel) (by decide) free
  have unnameable : ¬ Nameable "1st" := by decide +kernel
  exact ⟨by decide +kernel, free, compile_error_of_nests nests (read_unnameable run unnameable)⟩

end Matcher

end LogSift
