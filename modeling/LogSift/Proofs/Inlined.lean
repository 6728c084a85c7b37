import LogSift.Proofs.Captures
import LogSift.Proofs.Occurrences
import LogSift.Proofs.Validation
import LogSift.Regex.Footprint

/-!
Bodies written out. Where no token reaches over the place at which two texts meet (`Token.Apart`),
the expansion of both together is that of one after the other (`nests_append_iff`). A token is
expanded like its body in parentheses, but under one more open name. Names that the body does not
lead to may be opened or closed around it (`Nests.reopen`), so a token can be exchanged for its
body and the body for the token (`expand_inlined`).
-/

namespace LogSift

namespace Token

/-- No token that begins in the left text depends on the right one behind it. -/
def Apart (left right : List Char) : Prop :=
  ∀ part, part <:+ left → part ≠ [] →
    read? (part ++ right) = (read? part).map fun (token, rest) => (token, rest ++ right)

/-- A character that stands in tokens at their beginning or not at all. -/
def Bounds (c : Char) : Prop := c = '%' ∨ Separates c

variable {left right cs : List Char} {split : Split} {token : Token} {c : Char} {name : String}

theorem Apart.suffix {part : List Char} (apart : Apart left right) (suffix : part <:+ left) :
    Apart part right :=
  fun inner inside => apart inner (inside.trans suffix)

/-- No token begins where there is no percent sign. -/
theorem apart_of_percent_not_mem (absent : '%' ∉ left) (right : List Char) : Apart left right := by
  have unread (c : Char) (cs : List Char) (other : c ≠ '%') : read? (c :: cs) = none := by
    rw [read?]
    intro rest same
    exact other (List.cons_eq_cons.1 same).1
  intro part suffix some
  obtain ⟨c, cs, rfl⟩ := List.exists_cons_of_ne_nil some
  have other : c ≠ '%' := by
    rintro rfl
    exact absent (suffix.subset List.mem_cons_self)
  rw [List.cons_append, unread c _ other, unread c _ other]
  rfl

theorem WellFormed.not_mem_tail (wellFormed : token.WellFormed) (bounds : Bounds c) :
    ∀ first rest, token.chars = first :: rest → c ∉ rest := by
  intro first rest spelled member
  rcases bounds with rfl | separates
  · obtain ⟨tail, spelled', absent⟩ := wellFormed.chars_eq_cons
    obtain ⟨-, rfl⟩ := List.cons_eq_cons.1 (spelled.symm.trans spelled')
    exact absent member
  · exact wellFormed.not_mem_chars separates (spelled ▸ List.mem_cons_of_mem first member)

/-- A token that begins before such a character ends before it. -/
theorem apart_of_bounds (bounds : Bounds c) (left right : List Char) : Apart left (c :: right) := by
  intro part _ some
  cases read : read? part with
  | some pair => exact read?_append read (c :: right)
  | none =>
    cases across : read? (part ++ c :: right) with
    | none => rfl
    | some pair =>
      obtain ⟨wellFormed, text⟩ := read?_eq_some_iff.1 across
      obtain ⟨first, part, rfl⟩ := List.exists_cons_of_ne_nil some
      rcases List.append_eq_append_iff.1 text with ⟨beyond, reaches, rest⟩ | ⟨after, within, _⟩
      · cases beyond with
        | nil =>
          rw [List.append_nil] at reaches
          have whole := read?_eq_some_iff.2 ⟨wellFormed, (List.append_nil _).symm⟩
          rw [reaches, read] at whole
          cases whole
        | cons d beyond =>
          obtain ⟨rfl, -⟩ := List.cons_eq_cons.1 rest
          exact absurd (by simp) (wellFormed.not_mem_tail bounds first (part ++ c :: beyond) reaches)
      · rw [read?_eq_some_iff.2 ⟨wellFormed, within⟩] at read
        cases read

/-- The first token of two texts is that of the left one, if there is one. -/
theorem Apart.first?_of_some (apart : Apart left right) (found : first? left = some split) :
    first? (left ++ right) = some { split with after := split.after ++ right } := by
  induction left generalizing split with
  | nil => cases found
  | cons c left ih =>
    have here := apart (c :: left) (List.suffix_refl _) (List.cons_ne_nil _ _)
    rw [List.cons_append] at here
    rw [first?] at found
    rw [List.cons_append, first?, here]
    cases read : read? (c :: left) with
    | some pair =>
      rw [read] at found
      cases found
      rfl
    | none =>
      rw [read] at found
      obtain ⟨inner, foundInner, rfl⟩ := Option.map_eq_some_iff.1 found
      have later := ih (apart.suffix (List.suffix_cons c left)) foundInner
      simp [later]

/-- If the left text has no token, it is that of the right one. -/
theorem Apart.first?_of_none (apart : Apart left right) (none : first? left = none) :
    first? (left ++ right) =
      (first? right).map fun split => { split with before := left ++ split.before } := by
  induction left with
  | nil => simp
  | cons c left ih =>
    obtain ⟨unread, rest⟩ := first?_cons_eq_none.1 none
    have here := apart (c :: left) (List.suffix_refl _) (List.cons_ne_nil _ _)
    rw [List.cons_append, unread] at here
    have later := ih (apart.suffix (List.suffix_cons c left)) rest
    rw [List.cons_append, first?, here]
    simp [later, Function.comp_def]

theorem bounds_percent : Bounds '%' := .inl rfl

theorem bounds_opening : Bounds '(' := .inr (by decide)

theorem bounds_closing : Bounds ')' := .inr (by decide)

theorem apart_chars (wellFormed : token.WellFormed) (left right : List Char) :
    Apart left (token.chars ++ right) := by
  obtain ⟨rest, spelled, -⟩ := wellFormed.chars_eq_cons
  rw [spelled]
  exact apart_of_bounds bounds_percent left (rest ++ right)

theorem first?_chars_append (wellFormed : token.WellFormed) (right : List Char) :
    first? (token.chars ++ right) = some ⟨[], token, right⟩ := by
  have read : read? (token.chars ++ right) = some (token, right) :=
    read?_eq_some_iff.2 ⟨wellFormed, rfl⟩
  obtain ⟨rest, spelled, -⟩ := wellFormed.chars_eq_cons
  rw [spelled, List.cons_append] at read ⊢
  rw [first?, read]

theorem wellFormed_bare (word : IsName name) : WellFormed ⟨name, none, none⟩ :=
  ⟨word, by simp, by simp, by simp⟩

/-- What is written like the token of a name is a token only if the name is a word. -/
theorem isName_of_mem_occurrences {text : String} {place : Occurrence}
    (member : place ∈ occurrences text) (bare : place.token = ⟨name, none, none⟩) :
    IsName name := by
  obtain ⟨_, _, _, _, _, _, read⟩ := mem_occurrences.1 member
  have wellFormed := (ofChars?_eq_some_iff.1 read).1
  rw [bare] at wellFormed
  exact wellFormed.pattern

end Token

namespace Expansion

open Token (Apart)

/-- Results that differ at most in the pieces they are made of. -/
structure Alike (one other : Expansion) : Prop where
  source : one.source = other.source
  captures : one.captures = other.captures
  hints : ∀ group, one.hintOf? group = other.hintOf? group

variable {library : Library} {namedOnly : Bool} {maxDepth larger : Nat}
  {openNames others : List String} {naming middle final : Naming}
  {left right text expanded front rear : List Char} {pattern body : String}

/-! ### Texts one after the other -/

theorem Nests.append (apart : Apart left right)
    (first : Nests library namedOnly maxDepth openNames naming left front middle)
    (second : Nests library namedOnly maxDepth openNames middle right rear final) :
    Nests library namedOnly maxDepth openNames naming (left ++ right) (front ++ rear) final := by
  induction first with
  | @plain openNames naming left split =>
    have behind := apart.first?_of_none split
    cases second with
    | plain none =>
      rw [none] at behind
      exact .plain behind
    | token found fresh shallow defined entered inside later =>
      rw [found] at behind
      simpa using Nests.token behind fresh shallow defined entered inside later
  | @token _ _ _ _ _ left before after _ _ token _ _ split fresh shallow found entered inside _ _
      ihBehind =>
    have suffix : after <:+ left := by
      rw [(Token.first?_eq_append split).2]
      exact List.suffix_append ..
    have later := ihBehind (apart.suffix suffix) second
    simpa using Nests.token (apart.first?_of_some split) fresh shallow found entered inside later

/-- The expansion of two texts can be parted where they meet. -/
theorem Nests.exists_append (apart : Apart left right)
    (nests : Nests library namedOnly maxDepth openNames naming (left ++ right) expanded final) :
    ∃ front middle rear, Nests library namedOnly maxDepth openNames naming left front middle ∧
      Nests library namedOnly maxDepth openNames middle right rear final ∧
      expanded = front ++ rear := by
  generalize whole : left ++ right = text at nests
  -- Only the text behind a token is followed: its body is the same on its own.
  induction nests generalizing left with
  | plain split =>
    subst whole
    cases found : Token.first? left with
    | none =>
      refine ⟨left, _, right, .plain found, .plain ?_, rfl⟩
      simpa [apart.first?_of_none found] using split
    | some inner => simp [apart.first?_of_some found] at split
  | @token _ naming _ _ _ _ _ _ _ _ _ _ _ split fresh shallow defined entered inside behind _
      ihBehind =>
    subst whole
    cases found : Token.first? left with
    | none =>
      rw [apart.first?_of_none found] at split
      obtain ⟨⟨_, _, _⟩, foundRight, same⟩ := Option.map_eq_some_iff.1 split
      cases same
      exact ⟨left, naming, _, .plain found,
        .token foundRight fresh shallow defined entered inside behind, by simp⟩
    | some inner =>
      obtain ⟨before, token, after⟩ := inner
      rw [apart.first?_of_some found] at split
      cases split
      have suffix : after <:+ left := by
        rw [(Token.first?_eq_append found).2]
        exact List.suffix_append ..
      obtain ⟨front, middle, rear, first, second, rfl⟩ := ihBehind (apart.suffix suffix) rfl
      exact ⟨_, middle, rear, .token found fresh shallow defined entered inside first, second,
        by simp⟩

/-- Where no token reaches from one text into the next, the expansion of both is that of one after
    the other. -/
theorem nests_append_iff (apart : Apart left right) :
    Nests library namedOnly maxDepth openNames naming (left ++ right) expanded final ↔
      ∃ front middle rear, Nests library namedOnly maxDepth openNames naming left front middle ∧
        Nests library namedOnly maxDepth openNames middle right rear final ∧
        expanded = front ++ rear := by
  constructor
  · exact Nests.exists_append apart
  · rintro ⟨front, middle, rear, first, second, rfl⟩
    exact first.append apart second

theorem nests_of_first?_none (tokenless : Token.first? text = none) :
    Nests library namedOnly maxDepth openNames naming text expanded final ↔
      expanded = text ∧ final = naming := by
  constructor
  · intro nests
    cases nests with
    | plain => exact ⟨rfl, rfl⟩
    | token split =>
      rw [tokenless] at split
      cases split
  · rintro ⟨rfl, rfl⟩
    exact .plain tokenless

/-- A text without percent sign in front stays in front. -/
theorem nests_prepend_iff (absent : '%' ∉ left) :
    Nests library namedOnly maxDepth openNames naming (left ++ right) expanded final ↔
      ∃ rear, Nests library namedOnly maxDepth openNames naming right rear final ∧
        expanded = left ++ rear := by
  have tokenless : Token.first? left = none := by
    have behind : Token.first? [] = none := rfl
    simpa using Token.first?_append_of_ne behind absent
  rw [nests_append_iff (Token.apart_of_percent_not_mem absent right)]
  simp [nests_of_first?_none tokenless]

/-! ### A body in its place -/

/-- A body in parentheses, with a text behind it. -/
def around (body rear : List Char) : List Char := "(?:".toList ++ (body ++ (")".toList ++ rear))

/-- A body in parentheses is expanded in parentheses, and then the text behind it. -/
theorem nests_around_iff :
    Nests library namedOnly maxDepth openNames naming (around text right) expanded final ↔
      ∃ inner middle later,
        Nests library namedOnly maxDepth openNames naming text inner middle ∧
        Nests library namedOnly maxDepth openNames middle right later final ∧
        expanded = around inner later := by
  have closing (middle : Naming) (rear : List Char) :
      Nests library namedOnly maxDepth openNames middle (")".toList ++ right) rear final ↔
        ∃ later, Nests library namedOnly maxDepth openNames middle right later final ∧
          rear = ")".toList ++ later :=
    nests_prepend_iff (by decide)
  have meet : Apart text (")".toList ++ right) :=
    Token.apart_of_bounds Token.bounds_closing text right
  rw [around, nests_prepend_iff (by decide)]
  constructor
  · rintro ⟨rest, nests, rfl⟩
    obtain ⟨inner, middle, rear, inside, behind, rfl⟩ := (nests_append_iff meet).1 nests
    obtain ⟨later, onward, rfl⟩ := (closing middle rear).1 behind
    exact ⟨inner, middle, later, inside, onward, rfl⟩
  · rintro ⟨inner, middle, later, inside, onward, rfl⟩
    exact ⟨_, inside.append meet ((closing middle _).2 ⟨later, onward, rfl⟩), rfl⟩

/-- A token without field is expanded like its body in parentheses, but while its name is open. -/
theorem nests_reference_iff (word : Token.IsName pattern)
    (found : library.lookup? pattern = some body) :
    Nests library true maxDepth [] naming
        (Token.chars ⟨pattern, none, none⟩ ++ right) expanded final ↔
      0 < maxDepth ∧ ∃ inner middle later,
        Nests library true maxDepth [pattern] naming body.toList inner middle ∧
        Nests library true maxDepth [] middle right later final ∧
        expanded = around inner later := by
  have split := Token.first?_chars_append (Token.wellFormed_bare word) right
  have silent : naming.enter ⟨pattern, none, none⟩ true = .ok (none, naming) := rfl
  constructor
  · intro nests
    cases nests with
    | plain none =>
      rw [split] at none
      cases none
    | token split' _ shallow found' entered inside behind =>
      rw [split] at split'
      cases split'
      cases found.symm.trans found'
      cases silent.symm.trans entered
      exact ⟨shallow, _, _, _, inside, behind, by simp [around, head]⟩
  · rintro ⟨shallow, inner, middle, later, inside, behind, rfl⟩
    have nests := Nests.token split List.not_mem_nil shallow found silent inside behind
    simpa [around, head] using nests

/-- Other names may be open around a text: none that it leads to, and no more than the limit leaves
    room for. -/
theorem Nests.reopen (nests : Nests library namedOnly maxDepth openNames naming text expanded final)
    (free : ∀ name, library.Reach ((Token.tokens text).map (·.pattern)) name →
      name ∈ others → name ∈ openNames)
    (room : others.length + maxDepth ≤ openNames.length + larger) :
    Nests library namedOnly larger others naming text expanded final := by
  induction nests generalizing others with
  | plain split => exact .plain split
  | @token openNames _ _ _ _ _ _ _ _ _ token body _ split fresh shallow found entered _ _ ihInside
      ihBehind =>
    rw [Token.tokens_of_some split] at free
    have closed : token.pattern ∉ others := fun isOpen =>
      fresh (free _ ⟨_, List.mem_cons_self, .refl⟩ isOpen)
    refine .token split closed (by omega) found entered (ihInside ?_ (by simp; omega))
      (ihBehind ?_ room)
    · intro name reach isOpen
      rw [List.mem_append] at isOpen ⊢
      refine isOpen.imp_left fun isOpen => free name ?_ isOpen
      obtain ⟨next, stands, path⟩ := reach
      exact ⟨_, List.mem_cons_self, .head ⟨body, found, stands⟩ path⟩
    · intro name reach isOpen
      obtain ⟨next, stands, path⟩ := reach
      exact free name ⟨next, List.mem_cons_of_mem _ stands, path⟩ isOpen

/-- A body that can be expanded does not lead to its own name. -/
theorem Nests.not_reach (found : library.lookup? pattern = some body)
    (nests : Nests library namedOnly maxDepth [] naming body.toList expanded final) :
    ¬ library.Reach ((Token.tokens body.toList).map (·.pattern)) pattern := by
  rintro ⟨next, stands, path⟩
  obtain ⟨token, member, rfl⟩ := List.mem_map.1 stands
  have expands : Expands library namedOnly maxDepth [] body.toList :=
    ⟨_, _, nested_eq_ok_iff.2 nests⟩
  have sound := (expands.clean token member).sound pattern path
  exact sound.2 (.head' ⟨body, found, stands⟩ path)

/-! ### Whole expressions -/

theorem Alike.of_naming {one other : Expansion} (source : one.source = other.source)
    (naming : one.naming = other.naming) : one.Alike other := by
  have captures : one.captures = other.captures := congrArg Naming.captures naming
  have fieldHints : one.fieldHints = other.fieldHints := congrArg Naming.fieldHints naming
  exact ⟨source, captures, fun group => by rw [hintOf?, hintOf?, captures, fieldHints]⟩

/-- Results of one expansion rule by rule are alike. -/
theorem exists_alike_of_nests [Regex.Engine] {expression : String} {result : Expansion}
    (nests : Nests library namedOnly maxDepth [] {} expression.toList result.source.toList
      result.naming) :
    ∃ other, library.expand expression namedOnly maxDepth = .ok other ∧ other.Alike result := by
  have whole := expand_nested library expression namedOnly maxDepth
  rw [nested_eq_ok_iff.2 nests] at whole
  obtain ⟨other, expanded, source, captures, fieldHints⟩ := whole
  refine ⟨other, expanded, .of_naming (by simpa using source) ?_⟩
  rw [naming, captures, fieldHints]

/-- A bare token of an expression can be exchanged for its body in parentheses, and if the limit
    leaves room for one more name, the body for the token: regular expression, captures and hints
    stay the same. -/
theorem expand_inlined [Regex.Engine] (library : Library)
    (front pattern body rear : String) (maxDepth : Nat)
    (stands : ⟨front.utf8ByteSize, (front ++ Token.reference pattern).utf8ByteSize,
      ⟨pattern, none, none⟩⟩ ∈ Token.occurrences (front ++ Token.reference pattern ++ rear))
    (found : library.lookup? pattern = some body) :
    (∀ result, library.expand (front ++ Token.reference pattern ++ rear) true maxDepth =
        .ok result →
      ∃ inlined, library.expand (front ++ "(?:" ++ body ++ ")" ++ rear) true maxDepth =
        .ok inlined ∧ inlined.Alike result) ∧
    ∀ inlined, library.expand (front ++ "(?:" ++ body ++ ")" ++ rear) true maxDepth =
        .ok inlined →
      ∃ result, library.expand (front ++ Token.reference pattern ++ rear) true (maxDepth + 1) =
        .ok result ∧ result.Alike inlined := by
  have word : Token.IsName pattern := Token.isName_of_mem_occurrences stands rfl
  have referring : (front ++ Token.reference pattern ++ rear).toList =
      front.toList ++ (Token.chars ⟨pattern, none, none⟩ ++ rear.toList) := by
    simp [Token.reference]
  have inlining : (front ++ "(?:" ++ body ++ ")" ++ rear).toList =
      front.toList ++ around body.toList rear.toList := by
    simp [around]
  have atToken := Token.apart_chars (Token.wellFormed_bare word) front.toList rear.toList
  have atOpening : Apart front.toList (around body.toList rear.toList) :=
    Token.apart_of_bounds Token.bounds_opening front.toList _
  constructor
  · intro result expanded
    have nests := nested_eq_ok_iff.1 (nested_of_expand expanded)
    rw [referring, nests_append_iff atToken] at nests
    obtain ⟨before, middle, behind, nestsFront, nestsToken, source⟩ := nests
    obtain ⟨-, inner, entry, later, inside, onward, rfl⟩ :=
      (nests_reference_iff word found).1 nestsToken
    have closed : Nests library true maxDepth [] middle body.toList inner entry :=
      inside.reopen (by simp) (by simp)
    refine exists_alike_of_nests ?_
    rw [inlining, source]
    exact nestsFront.append atOpening (nests_around_iff.2 ⟨inner, entry, later, closed, onward, rfl⟩)
  · intro inlined expanded
    have nests := nested_eq_ok_iff.1 (nested_of_expand expanded)
    rw [inlining, nests_append_iff atOpening] at nests
    obtain ⟨before, middle, behind, nestsFront, nestsBody, source⟩ := nests
    obtain ⟨inner, entry, later, inside, onward, rfl⟩ := nests_around_iff.1 nestsBody
    have absent := inside.not_reach found
    have opened : Nests library true (maxDepth + 1) [pattern] middle body.toList inner entry :=
      inside.reopen (fun name reach isOpen => absurd (List.mem_singleton.1 isOpen ▸ reach) absent)
        (by simp; omega)
    have deeper {text expanded : List Char} {naming final : Naming}
        (nests : Nests library true maxDepth [] naming text expanded final) :
        Nests library true (maxDepth + 1) [] naming text expanded final :=
      nests.reopen (by simp) (by simp)
    refine exists_alike_of_nests ?_
    rw [referring, source]
    exact (deeper nestsFront).append atToken ((nests_reference_iff word found).2
      ⟨maxDepth.succ_pos, inner, entry, later, opened, deeper onward, rfl⟩)

/-- A library in which a body captures the field that the expression captures before it. -/
def twofold : Library := letters.insert "B" "%{A:x}"

theorem twofold_expands [Regex.Engine] : ∃ inlined : Expansion,
    twofold.expand "%{A:x}(?:%{A:x})" true 1 = .ok inlined ∧
      inlined.source = "(?P<x>a)(?:(?P<x__2>a))" := by
  have split₁ : Token.first? "%{A:x}(?:%{A:x})".toList =
      some ⟨[], ⟨"A", some "x", none⟩, "(?:%{A:x})".toList⟩ := by decide +kernel
  have split₂ : Token.first? "(?:%{A:x})".toList =
      some ⟨"(?:".toList, ⟨"A", some "x", none⟩, ")".toList⟩ := by decide +kernel
  have carried : FieldName.isReserved "x" = false := by decide +kernel
  have fresh₁ : freshGroup (namesOf ∅) "x" = "x" := by decide +kernel
  have fresh₂ : freshGroup (namesOf ((∅ : Std.TreeMap String String).insert "x" "x")) "x" =
      "x__2" := by decide +kernel
  have found : twofold.lookup? "A" = some "a" := by decide +kernel
  have plain : Token.first? "a".toList = none := by decide +kernel
  have nests : Nests twofold true 1 [] {} "%{A:x}(?:%{A:x})".toList _ _ :=
    nests_group split₁ found plain carried fresh₁ Nat.one_pos <|
      nests_group split₂ found plain carried fresh₂ Nat.one_pos <| .plain (by decide +kernel)
  have whole := expand_nested twofold "%{A:x}(?:%{A:x})" true 1
  rw [nested_eq_ok_iff.2 nests] at whole
  obtain ⟨inlined, expanded, source, _⟩ := whole
  exact ⟨inlined, expanded, source.trans (by decide +kernel)⟩

/-- Under one more open name, the token is expanded as its body was: the alias stays the same. -/
theorem expand_inlined_twofold :
    ⟨6, 10, ⟨"B", none, none⟩⟩ ∈ Token.occurrences "%{A:x}%{B}" ∧
    twofold.lookup? "B" = some "%{A:x}" ∧
    ∃ inlined result : Expansion, twofold.expand "%{A:x}(?:%{A:x})" true 1 = .ok inlined ∧
      twofold.expand "%{A:x}%{B}" true 2 = .ok result ∧ result.Alike inlined ∧
      result.source = "(?P<x>a)(?:(?P<x__2>a))" := by
  have referring : "%{A:x}" ++ Token.reference "B" ++ "" = "%{A:x}%{B}" := by decide +kernel
  have inlining : "%{A:x}" ++ "(?:" ++ "%{A:x}" ++ ")" ++ "" = "%{A:x}(?:%{A:x})" := by
    decide +kernel
  have stands : ⟨6, 10, ⟨"B", none, none⟩⟩ ∈ Token.occurrences "%{A:x}%{B}" :=
    Token.mem_occurrences.2 ⟨"%{A:x}", "%{B}", "", by decide +kernel, by decide +kernel,
      by decide +kernel, by decide +kernel⟩
  have found : twofold.lookup? "B" = some "%{A:x}" := by decide +kernel
  obtain ⟨inlined, expanded, source⟩ := twofold_expands
  have exchange := expand_inlined twofold "%{A:x}" "B" "%{A:x}" "" 1 (by
    rw [referring]
    exact stands) found
  rw [referring, inlining] at exchange
  obtain ⟨result, again, alike⟩ := exchange.2 inlined expanded
  exact ⟨stands, found, inlined, result, expanded, again, alike, alike.source.trans source⟩

end Expansion

end LogSift
