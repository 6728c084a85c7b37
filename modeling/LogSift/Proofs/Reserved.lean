import LogSift.Proofs.Tokenless
import LogSift.Proofs.Usable
import Mathlib.Data.List.DropRight
import Mathlib.Data.Set.Function

/-!
Fields that group names can carry. Encoding loses a name exactly if it has three lines in a row or a
line right before a dot (`isReserved_iff`): there, decoding finds a dot that was none. All other names
and the group names without dots stand for each other, one to one (`encode_bijOn`).
-/

namespace LogSift.FieldName

open Token (IsRun)
open Unicode (isWord)

variable {c : Char} {cs run part : List Char} {name group : String}

theorem dot_not_mem_encodeChars (cs : List Char) : '.' ∉ encodeChars cs := by
  induction cs using encodeChars.induct with
  | case1 => simp [encodeChars]
  | case2 rest ih => simpa [encodeChars] using ih
  | case3 c rest plain ih =>
    rw [encodeChars_cons plain, List.mem_cons, not_or]
    exact ⟨Ne.symm plain, ih⟩

/-- Characters without dots come back from what they are decoded to. -/
theorem encodeChars_decodeChars (dotless : '.' ∉ cs) : encodeChars (decodeChars cs) = cs := by
  induction cs using decodeChars.induct with
  | case1 => rfl
  | case2 rest ih =>
    have later := ih (by simpa using dotless)
    rw [decodeChars, encodeChars, later]
  | case3 c rest other ih =>
    rw [List.mem_cons, not_or] at dotless
    rw [decodeChars.eq_3 _ _ other, encodeChars_cons (Ne.symm dotless.1), ih dotless.2]

/-! ### Names that do not come back -/

/-- Lines where decoding would find a dot that was none: three in a row, or one right before a dot. -/
def Blurred (cs : List Char) : Prop := "___".toList <:+: cs ∨ "_.".toList <:+: cs

theorem not_blurred_nil : ¬ Blurred [] := by simp [Blurred]

theorem blurred_cons_iff :
    Blurred (c :: cs) ↔ (c = '_' ∧ (['_', '_'] <+: cs ∨ ['.'] <+: cs)) ∨ Blurred cs := by
  have three : "___".toList = ['_', '_', '_'] := rfl
  have two : "_.".toList = ['_', '.'] := rfl
  rw [Blurred, three, two, List.infix_cons_iff, List.infix_cons_iff, List.cons_prefix_cons,
    List.cons_prefix_cons, or_or_or_comm, ← and_or_left, eq_comm]
  rfl

/-- What is encoded begins with a line only where a line or a dot stood. -/
theorem line_or_dot_of_encodeChars_eq_cons {rest : List Char}
    (begun : encodeChars cs = '_' :: rest) :
    ['.'] <+: cs ∨ ∃ later, cs = '_' :: later ∧ encodeChars later = rest := by
  cases cs with
  | nil => cases begun
  | cons c cs =>
    by_cases dot : c = '.'
    · exact .inl (by simp [dot])
    · rw [encodeChars_cons dot] at begun
      obtain ⟨rfl, rest⟩ := List.cons.inj begun
      exact .inr ⟨cs, rfl, rest⟩

/-- Where no line is blurred, decoding finds the dots again. -/
theorem decodeChars_encodeChars (clear : ¬ Blurred cs) : decodeChars (encodeChars cs) = cs := by
  induction cs with
  | nil => rfl
  | cons c cs ih =>
    rw [blurred_cons_iff, not_or, not_and] at clear
    obtain ⟨here, later⟩ := clear
    by_cases dot : c = '.'
    · subst dot
      rw [encodeChars, decodeChars, ih later]
    · rw [encodeChars_cons dot, decodeChars.eq_3, ih later]
      -- A placeholder could only begin here if a dot or two more lines came next.
      rintro rest rfl begun
      refine here rfl ?_
      rcases line_or_dot_of_encodeChars_eq_cons begun with beside | ⟨behind, rfl, line⟩
      · exact .inr beside
      · rw [blurred_cons_iff, not_or, not_and, not_or] at later
        rcases line_or_dot_of_encodeChars_eq_cons line with beside | ⟨_, rfl, _⟩
        · exact absurd beside (later.1 rfl).2
        · exact .inl (by simp)

/-- What is decoded begins with a dot only where three lines stood. -/
theorem lines_of_dot_prefix (dotless : '.' ∉ cs) (dot : ['.'] <+: decodeChars cs) :
    ['_', '_', '_'] <+: cs := by
  induction cs using decodeChars.induct with
  | case1 => simp [decodeChars] at dot
  | case2 rest => simp
  | case3 c rest other =>
    rw [decodeChars.eq_3 _ _ other, List.cons_prefix_cons] at dot
    exact absurd (dot.1 ▸ List.mem_cons_self) dotless

/-- What is decoded begins with a line only where a line stood. -/
theorem line_of_line_prefix {rest : List Char} (begun : ('_' :: rest) <+: decodeChars cs) :
    ∃ behind, cs = '_' :: behind ∧ rest <+: decodeChars behind := by
  induction cs using decodeChars.induct with
  | case1 => simp [decodeChars] at begun
  | case2 behind => simp [decodeChars] at begun
  | case3 c behind other =>
    rw [decodeChars.eq_3 _ _ other, List.cons_prefix_cons] at begun
    exact ⟨behind, by rw [begun.1], begun.2⟩

/-- Decoding leaves no blurred line. -/
theorem not_blurred_decodeChars (dotless : '.' ∉ cs) : ¬ Blurred (decodeChars cs) := by
  induction cs using decodeChars.induct with
  | case1 => exact not_blurred_nil
  | case2 rest ih =>
    have later := ih (by simpa using dotless)
    rw [decodeChars, blurred_cons_iff]
    simpa using later
  | case3 c rest other ih =>
    rw [List.mem_cons, not_or] at dotless
    rw [decodeChars.eq_3 _ _ other, blurred_cons_iff, not_or]
    refine ⟨?_, ih dotless.2⟩
    rintro ⟨rfl, lines | dot⟩
    · obtain ⟨_, rfl, line⟩ := line_of_line_prefix lines
      obtain ⟨_, rfl, _⟩ := line_of_line_prefix line
      exact other _ rfl rfl
    · obtain ⟨_, rfl⟩ := lines_of_dot_prefix dotless.2 dot
      exact other _ rfl rfl

/-! ### Reserved names -/

theorem isReserved_eq_false_iff : isReserved name = false ↔ decode (encode name) = name := by
  simp [isReserved]

theorem not_blurred_iff : ¬ Blurred name.toList ↔ decode (encode name) = name := by
  rw [encode, decode, String.toList_ofList]
  constructor
  · intro clear
    rw [decodeChars_encodeChars clear, String.ofList_toList]
  · intro same
    rw [← same, String.toList_ofList]
    exact not_blurred_decodeChars (dot_not_mem_encodeChars _)

theorem isReserved_iff : isReserved name = true ↔ Blurred name.toList := by
  rw [← not_iff_not, not_blurred_iff, isReserved, bne_iff_ne, not_not]

theorem dot_not_mem_encode (name : String) : '.' ∉ (encode name).toList := by
  rw [encode, String.toList_ofList]
  exact dot_not_mem_encodeChars _

theorem encode_decode (dotless : '.' ∉ group.toList) : encode (decode group) = group := by
  rw [encode, decode, String.toList_ofList, encodeChars_decodeChars dotless, String.ofList_toList]

/-- What a group name without dots decodes to is a field that tokens may name. -/
theorem isReserved_decode (dotless : '.' ∉ group.toList) : isReserved (decode group) = false := by
  rw [isReserved_eq_false_iff, encode_decode dotless]

/-! ### Runs of dots and lines -/

/-- A dot or a line. -/
def isJoint (c : Char) : Bool := c == '.' || c == '_'

/-- A run of dots and lines that no dot or line stands next to. -/
def Seam (cs run : List Char) : Prop :=
  ∃ before after : List Char, cs = before ++ run ++ after ∧ run.all isJoint = true ∧
    (∀ c ∈ before.getLast?, isJoint c = false) ∧ ∀ c ∈ after.head?, isJoint c = false

/-- Some dots, and at most two lines behind them. -/
def Orderly (run : List Char) : Prop :=
  ∃ dots lines : Nat, lines ≤ 2 ∧ run = List.replicate dots '.' ++ List.replicate lines '_'

theorem orderly_cons_dot (run : List Char) : Orderly ('.' :: run) ↔ Orderly run := by
  constructor
  · rintro ⟨_ | dots, lines, few, spelled⟩
    · cases lines <;> simp [List.replicate_succ] at spelled
    · exact ⟨dots, lines, few, by simpa [List.replicate_succ] using spelled⟩
  · rintro ⟨dots, lines, few, rfl⟩
    exact ⟨dots + 1, lines, few, rfl⟩

theorem orderly_cons_line (run : List Char) : Orderly ('_' :: run) ↔ run = [] ∨ run = ['_'] := by
  constructor
  · rintro ⟨_ | dots, lines, few, spelled⟩
    · obtain rfl | rfl | rfl : lines = 0 ∨ lines = 1 ∨ lines = 2 := by omega
      · cases spelled
      · exact .inl (by simpa using spelled)
      · exact .inr (by simpa [List.replicate_succ] using spelled)
    · simp [List.replicate_succ] at spelled
  · rintro (rfl | rfl)
    · exact ⟨0, 1, by omega, rfl⟩
    · exact ⟨0, 2, by omega, rfl⟩

/-- Among dots and lines, only some dots and at most two lines behind them are clear. -/
theorem not_blurred_iff_orderly (joints : run.all isJoint = true) : ¬ Blurred run ↔ Orderly run := by
  induction run with
  | nil => exact iff_of_true not_blurred_nil ⟨0, 0, by simp⟩
  | cons c run ih =>
    rw [List.all_cons, Bool.and_eq_true] at joints
    obtain ⟨here, joints⟩ := joints
    have ih := ih joints
    rw [isJoint, Bool.or_eq_true, beq_iff_eq, beq_iff_eq] at here
    rcases here with rfl | rfl
    · rw [orderly_cons_dot, ← ih, blurred_cons_iff]
      simp
    · rw [orderly_cons_line, blurred_cons_iff]
      cases run with
      | nil => exact iff_of_true (by simp [not_blurred_nil]) (.inl rfl)
      | cons d run =>
        rw [List.all_cons, Bool.and_eq_true, isJoint, Bool.or_eq_true, beq_iff_eq, beq_iff_eq]
          at joints
        obtain ⟨rfl | rfl, joints⟩ := joints
        · exact iff_of_false (by simp) (by simp)
        · cases run with
          | nil => exact iff_of_true (by simp [blurred_cons_iff, not_blurred_nil]) (.inr rfl)
          | cons e run =>
            refine iff_of_false ?_ (by simp)
            rw [List.all_cons, Bool.and_eq_true, isJoint, Bool.or_eq_true, beq_iff_eq, beq_iff_eq]
              at joints
            obtain ⟨rfl | rfl, joints⟩ := joints
            · simp [blurred_cons_iff]
            · simp

theorem not_of_mem_head?_dropWhile {p : Char → Bool} (first : c ∈ (cs.dropWhile p).head?) :
    p c = false := by
  have stopped := List.head?_dropWhile_not p cs
  rw [Option.mem_def.1 first] at stopped
  exact stopped

/-- Dots and lines that stand together stand in one whole run of them. -/
theorem exists_seam (joints : part.all isJoint = true) (inside : part <:+: cs) :
    ∃ run, Seam cs run ∧ part <:+: run := by
  obtain ⟨left, right, rfl⟩ := inside
  refine ⟨left.rtakeWhile isJoint ++ part ++ right.takeWhile isJoint,
    ⟨left.rdropWhile isJoint, right.dropWhile isJoint, ?_, ?_, ?_, ?_⟩,
    ⟨left.rtakeWhile isJoint, right.takeWhile isJoint, rfl⟩⟩
  · have parts : left.rdropWhile isJoint ++ left.rtakeWhile isJoint = left :=
      List.rdropWhile_append_rtakeWhile
    calc left ++ part ++ right
        = (left.rdropWhile isJoint ++ left.rtakeWhile isJoint) ++ part ++
            (right.takeWhile isJoint ++ right.dropWhile isJoint) := by
          rw [parts, List.takeWhile_append_dropWhile]
      _ = _ := by simp only [List.append_assoc]
  · rw [List.all_append, List.all_append, joints, List.all_takeWhile, Bool.and_true, Bool.and_true,
      List.all_eq_true]
    exact fun c member => List.mem_rtakeWhile_imp member
  · intro c last
    rw [List.rdropWhile, List.getLast?_reverse] at last
    exact not_of_mem_head?_dropWhile last
  · intro c first
    exact not_of_mem_head?_dropWhile first

theorem not_blurred_iff_seams : ¬ Blurred cs ↔ ∀ run, Seam cs run → Orderly run := by
  constructor
  · rintro clear run ⟨before, after, rfl, joints, _⟩
    rw [← not_blurred_iff_orderly joints]
    exact fun blurred => clear (blurred.imp (fun found => found.trans ⟨before, after, rfl⟩)
      fun found => found.trans ⟨before, after, rfl⟩)
  · intro orderly blurred
    have whole (part : List Char) (joints : part.all isJoint = true) (inside : part <:+: cs) :
        ∃ run, part <:+: run ∧ ¬ Blurred run := by
      obtain ⟨run, seam, inside⟩ := exists_seam joints inside
      have joints := seam.choose_spec.choose_spec.2.1
      exact ⟨run, inside, (not_blurred_iff_orderly joints).2 (orderly run seam)⟩
    rcases blurred with inside | inside
    · obtain ⟨_, found, clear⟩ := whole _ (by decide) inside
      exact clear (.inl found)
    · obtain ⟨_, found, clear⟩ := whole _ (by decide) inside
      exact clear (.inr found)

/-- A name is reserved if and only if it has three lines in a row or a line right before a dot. It comes
    back from its group name if and only if each whole run of dots and lines in it is some dots, and at
    most two lines behind them. -/
theorem isReserved_iff_seams (name : String) :
    (isReserved name = true ↔ "___".toList <:+: name.toList ∨ "_.".toList <:+: name.toList) ∧
    (decode (encode name) = name ↔ ∀ run, Seam name.toList run →
      ∃ dots lines : Nat, lines ≤ 2 ∧
        run = List.replicate dots '.' ++ List.replicate lines '_') :=
  ⟨isReserved_iff, not_blurred_iff.symm.trans not_blurred_iff_seams⟩

/-- A line may follow a dot, but none may come before it. -/
example : isReserved "a.__b" = false ∧ isReserved "a_.b" = true := by decide

/-! ### Fields and groups, one to one -/

/-- The fields that group names can carry. -/
def carried : Set String := {name | isReserved name = false}

/-- The group names without dots. -/
def dotless : Set String := {group | '.' ∉ group.toList}

theorem mem_decodeChars (member : c ∈ decodeChars cs) : c = '.' ∨ c ∈ cs := by
  induction cs using decodeChars.induct with
  | case1 => cases member
  | case2 rest ih =>
    rw [decodeChars, List.mem_cons] at member
    rcases member with dot | later
    · exact .inl dot
    · exact (ih later).imp_right fun inside => by simp [inside]
  | case3 d rest other ih =>
    rw [decodeChars.eq_3 _ _ other, List.mem_cons] at member
    rcases member with rfl | later
    · exact .inr List.mem_cons_self
    · exact (ih later).imp_right (.tail _)

theorem decodeChars_ne_nil (nonempty : cs ≠ []) : decodeChars cs ≠ [] := by
  cases cs using decodeChars.fun_cases <;> simp_all [decodeChars]

/-- A group name of word characters is decoded to a field that a token can name. -/
theorem isRun_decode (run : IsRun isWord group) : IsRun Token.isFieldChar (decode group) := by
  obtain ⟨nonempty, all⟩ := run
  refine Token.isRun_ofList (decodeChars_ne_nil (by simpa using nonempty)) fun c member => ?_
  rcases mem_decodeChars member with rfl | inside
  · decide
  · simp [Token.isFieldChar, all c inside]

/-- The token of a decoded group name captures in the group of this name. -/
theorem expand_capturing [Regex.Engine]
    {library : Library} {body : String} {namedOnly : Bool} {maxDepth : Nat}
    (dotfree : group ∈ dotless) (run : IsRun isWord group) (word : Token.IsName name)
    (found : library.lookup? name = some body) (tokenless : Token.all body = [])
    (deep : 0 < maxDepth) : ∃ result,
      library.expand (Matcher.capturing name (decode group)) namedOnly maxDepth = .ok result ∧
      result.source = "(?P<" ++ group ++ ">" ++ body ++ ")" ∧
      result.captures = (∅ : Std.TreeMap String String).insert group (decode group) := by
  have same : encode (decode group) = group := encode_decode dotfree
  have whole := Expansion.expand_nested library (Matcher.capturing name (decode group)) namedOnly
    maxDepth
  rw [Expansion.nested_eq_ok_iff.2 (Matcher.nests_capturing word (isRun_decode run) found
    (Matcher.first?_of_all tokenless) deep (isReserved_decode dotfree))] at whole
  obtain ⟨result, expanded, source, captures, _⟩ := whole
  have chars : encodeChars (decode group).toList = group.toList := by
    simpa [encode] using congrArg String.toList same
  refine ⟨result, expanded, ?_, by rw [captures, Matcher.naming, same]⟩
  rw [source, Matcher.grouping, chars, ← String.toList_inj]
  simp [Regex.Reader.fielded]

/-- Encoding and decoding are inverse to each other between the names that are not reserved and the group
    names without dots. A group name of word characters without dots is decoded to a field that a token
    of any pattern captures in a group of just this name. -/
theorem encode_bijOn [Regex.Engine] :
    Set.BijOn encode carried dotless ∧ Set.BijOn decode dotless carried ∧
    Set.InvOn decode encode carried dotless ∧
    ∀ group ∈ dotless, IsRun isWord group →
      ∀ (library : Library) (name body : String) (namedOnly : Bool) (maxDepth : Nat),
        Token.IsName name → library.lookup? name = some body → Token.all body = [] →
        0 < maxDepth → ∃ text result,
          Token.ofString? text = some ⟨name, some (decode group), none⟩ ∧
          library.expand text namedOnly maxDepth = .ok result ∧
          result.source = "(?P<" ++ group ++ ">" ++ body ++ ")" ∧
          result.captures = (∅ : Std.TreeMap String String).insert group (decode group) := by
  have inverse : Set.InvOn decode encode carried dotless :=
    ⟨fun _ free => isReserved_eq_false_iff.1 free, fun _ dotfree => encode_decode dotfree⟩
  have encodes : Set.MapsTo encode carried dotless := fun name _ => dot_not_mem_encode name
  have decodes : Set.MapsTo decode dotless carried := fun _ dotfree => isReserved_decode dotfree
  refine ⟨inverse.bijOn encodes decodes, inverse.symm.bijOn decodes encodes, inverse, ?_⟩
  intro group dotfree run library name body namedOnly maxDepth word found tokenless deep
  obtain ⟨result, expanded, source, captures⟩ :=
    expand_capturing dotfree run word found tokenless deep
  refine ⟨_, result, ?_, expanded, source, captures⟩
  rw [Token.ofString?, Token.ofChars?_eq_some_iff]
  exact ⟨⟨word, by simpa using isRun_decode run, by simp, by simp⟩, String.toList_ofList⟩

/-- A group name with brackets is a field that no token names. -/
theorem decode_bracketed :
    (∃ matcher, Matcher.compile Matcher.isolated "(?P<a[0]>x)" true {} = .ok matcher ∧
      matcher.fieldNames = ["a[0]"]) ∧
    "a[0]" ∈ dotless ∧ decode "a[0]" = "a[0]" ∧
    ∀ text token namedOnly, Token.ofString? text = some token →
      token.fieldName? namedOnly ≠ some (decode "a[0]") := by
  have itself : decode "a[0]" = "a[0]" := by decide +kernel
  refine ⟨?_, (by decide : '.' ∉ "a[0]".toList), itself, ?_⟩
  · have tokenless : Token.first? "(?P<a[0]>x)".toList = none := by decide +kernel
    have proper : Regex.Reader.isName "a[0]".toList = true := by decide +kernel
    have read : Regex.Reader.read "(?P<a[0]>x)".toList = .ok (Matcher.fieldExpr "a[0]" "x") :=
      Regex.Reader.read_fielded proper (by decide) Matcher.plain_letter
    exact ⟨_, (Matcher.compile_eq_ok_iff_read (.plain tokenless)).2
      ⟨_, read, by decide +kernel, rfl⟩, by decide +kernel⟩
  · intro text token namedOnly read captures
    have wellFormed := (Token.ofChars?_eq_some_iff.1 read).1
    rw [itself] at captures
    have allowed := Expansion.isFieldChar_of_fieldName? wellFormed captures '[' (by decide)
    exact absurd allowed (by decide)

end LogSift.FieldName
