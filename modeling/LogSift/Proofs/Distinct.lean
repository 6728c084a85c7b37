import LogSift.Proofs.Allocation
import LogSift.Proofs.Copies
import LogSift.Proofs.Duplicates
import LogSift.Proofs.Lockstep
import LogSift.Proofs.Spliced
import LogSift.Proofs.Surfaced
import Mathlib.Data.List.Perm.Subperm

/-!
Names of groups that do not come twice. Names that tokens get differ from each other, but expansion does
not look at names that are written by hand: they come twice if their body is copied twice, if an alias
happens to be the same, or if a copy declares in its place what its text by itself does not
(`declared_twice`). Where nothing of this happens, all names of the groups of an expanded expression
differ, and the engine refuses none as given before (`expand_distinct`).
-/

namespace LogSift

open Std (TreeMap TreeSet)

namespace Expansion

open Regex (Head Written declared headsOf headName?)

/-- A text by itself, with an empty group in the place of every token. -/
def alone (cs : List Char) : List Char :=
  match _split : Token.first? cs with
  | none => cs
  | some ⟨before, _, after⟩ => before ++ ("(?:)".toList ++ alone after)
termination_by cs.length
decreasing_by exact Token.length_of_first? _split

/-- The names that a text by itself declares. -/
def declares (text : String) : List String := declared (alone text.toList)

/-- The names that the body of a pattern declares by itself. -/
def handwritten (library : Library) (name : String) : List String :=
  match library.lookup? name with
  | some body => declares body
  | none => []

/-- The names that an expanded expression declares in one of its copies of texts. -/
def declaredIn (result : Expansion) (k : Nat) : List String :=
  ((headsOf result.source.toList).filter fun head =>
    copyAt? {} head.text.length result.pieces = some k).map (·.name)

/-- The texts that an expansion copies from declare by themselves names apart from each other, and no name
    that the field of a token is encoded to. -/
structure Apart (library : Library) (expression : String) (namedOnly : Bool) : Prop where
  own : ∀ text, Origin library expression text → (declares text).Nodup
  outside : ∀ name, library.Reach (Token.patterns expression) name →
    (declares expression).Disjoint (handwritten library name)
  between : ∀ name other, library.Reach (Token.patterns expression) name →
    library.Reach (Token.patterns expression) other → name ≠ other →
    (handwritten library name).Disjoint (handwritten library other)
  unencoded : ∀ token, Occurs library expression token →
    ∀ field, token.fieldName? namedOnly = some field →
    ∀ text, Origin library expression text → FieldName.encode field ∉ declares text

/-- A copy of a text that writes the sign of a group with a name declares in its place no other names than
    the text by itself. -/
def InPlace (library : Library) (expression : String) (result : Expansion) : Prop :=
  ∀ k text, CopyOf library expression result k text → ¬ Unsigned text.toList →
    (result.declaredIn k).Subperm (declares text)

variable {library : Library} {expression : String} {namedOnly : Bool} {maxDepth : Nat}
  {token : Token} {group : Option String} {name body : String} {text before after : List Char}
  {result : Expansion} {head : Head} {k : Nat}

theorem alone_of_none (split : Token.first? text = none) : alone text = text := by
  rw [alone]
  split
  · rfl
  · next found => cases split.symm.trans found

theorem alone_of_some (split : Token.first? text = some ⟨before, token, after⟩) :
    alone text = before ++ ("(?:)".toList ++ alone after) := by
  rw [alone]
  split
  · next none => cases split.symm.trans none
  · next found =>
    cases split.symm.trans found
    rfl

/-! ### Heads in copies, heads of tokens -/

/-- Tokens that are opened occur if those occur that are to be read. -/
theorem Opens.occurs {tokens opened : List Token} (opens : Opens library tokens opened)
    (occurs : ∀ token ∈ tokens, Occurs library expression token) :
    ∀ token ∈ opened, Occurs library expression token := by
  induction opens with
  | done => exact occurs
  | @token first body rest opened found _ ih =>
    rw [List.forall_mem_cons] at occurs ⊢
    refine ⟨occurs.1, ih (List.forall_mem_append.2 ⟨?_, occurs.2⟩)⟩
    exact fun inner inside => occurs.1.inside found inside

theorem occurs_of_opened [Regex.Engine]
    (expanded : library.expand expression namedOnly maxDepth = .ok result)
    (opened : (token, group) ∈ result.openings) : Occurs library expression token :=
  (opens_of_expand expanded).occurs (fun _ => .inl) token (List.mem_map.2 ⟨_, opened, rfl⟩)

/-- The name of the group of a token is its encoded field, or an alias of it. -/
theorem exists_field_of_opened [Regex.Engine]
    (expanded : library.expand expression namedOnly maxDepth = .ok result)
    (opened : (token, some name) ∈ result.openings) : ∃ field, Occurs library expression token ∧
      token.fieldName? namedOnly = some field ∧ result.captures[name]? = some field := by
  have records := records_of_expand expanded
  cases captured : token.fieldName? namedOnly with
  | none => cases (records.named token (some name) opened).2 captured
  | some field =>
    exact ⟨field, occurs_of_opened expanded opened, rfl,
      (records.fields name field).2 ⟨token, opened, captured⟩⟩

/-- What is copied is the expression, or a body that it leads to. -/
theorem CopyOf.origin [Regex.Engine]
    (expanded : library.expand expression namedOnly maxDepth = .ok result)
    (copy : CopyOf library expression result k body) : Origin library expression body := by
  cases copy with
  | expression => exact .expression
  | body opened found =>
    exact .body (occurs_of_opened expanded (List.mem_of_getElem? opened)).reach found

/-- A head of an expanded expression stands in a copy of a text and is written there, or it is that of the
    group which a token has become. -/
theorem head_cases [Regex.Engine]
    (expanded : library.expand expression namedOnly maxDepth = .ok result)
    (member : head ∈ headsOf result.source.toList) :
    (∃ k text, copyAt? {} head.text.length result.pieces = some k ∧
      CopyOf library expression result k text ∧
      ∀ text, CopyOf library expression result k text → Written text.toList head.name) ∨
    copyAt? {} head.text.length result.pieces = none ∧
      ∃ before token after, result.pieces = before ++ .opening token (some head.name) :: after ∧
        head.text = "?P<".toList ++ (head.name.toList ++ '>' :: after.flatMap Piece.chars) := by
  obtain ⟨suffix, named⟩ := Regex.suffix_of_mem_headsOf member
  rw [source, String.toList_ofList] at suffix
  rcases placed {} (continues_of_expand expanded).parted (spelled_of_expand expanded) suffix named with
    ⟨k, found, part, copied, bracket, sign, known, stands⟩ | emitted
  · obtain ⟨body, copy⟩ := exists_copyOf expanded found
    refine .inl ⟨k, body, found, copy, fun text copy => ⟨bracket, sign, known, stands.trans ?_⟩⟩
    rw [parts_of_expand expanded copy] at copied
    exact infix_of_mem_gaps copied
  · exact .inr emitted

/-- A name that is declared in a copy is written by hand in its text. -/
theorem written_of_declaredIn [Regex.Engine]
    (expanded : library.expand expression namedOnly maxDepth = .ok result)
    (copy : CopyOf library expression result k body) (member : name ∈ result.declaredIn k) :
    Written body.toList name := by
  obtain ⟨head, among, rfl⟩ := List.mem_map.1 member
  obtain ⟨stands, found⟩ := List.mem_filter.1 among
  have found : copyAt? {} head.text.length result.pieces = some k := by simpa using found
  rcases head_cases expanded stands with ⟨k', _, found', _, written⟩ | ⟨none, _⟩
  · obtain rfl := Option.some.inj (found.symm.trans found')
    exact written body copy
  · cases found.symm.trans none

/-- Every copy declares in its place no other names than its text by itself, as one of a text without signs
    of groups with names declares none. -/
theorem InPlace.subperm [Regex.Engine] (inPlace : InPlace library expression result)
    (expanded : library.expand expression namedOnly maxDepth = .ok result)
    (copy : CopyOf library expression result k body) :
    (result.declaredIn k).Subperm (declares body) := by
  by_cases unsigned : Unsigned body.toList
  · have none : result.declaredIn k = [] := by
      refine List.eq_nil_iff_forall_not_mem.2 fun name member => ?_
      obtain ⟨_, sign, known, stands⟩ := written_of_declaredIn expanded copy member
      have begun : sign.toList <:+: sign.toList ++ name.toList ++ ['>'] := ⟨[], _, by simp; rfl⟩
      exact unsigned sign known (begun.trans stands)
    rw [none]
    exact List.nil_subperm
  · exact inPlace k body copy unsigned

/-! ### Names that differ -/

/-- What stands behind an element is told by what it is mapped to, if nothing else is mapped to that. -/
theorem after_eq_of_nodup {α β : Type} {f : α → Option β} {x y : α} {b : β}
    {before before' after after' : List α}
    (same : before ++ x :: after = before' ++ y :: after') (first : f x = some b)
    (second : f y = some b) (distinct : ((before ++ x :: after).filterMap f).Nodup) :
    after = after' := by
  induction before generalizing before' with
  | nil =>
    cases before' with
    | nil => exact (List.cons.inj same).2
    | cons z before' =>
      obtain ⟨rfl, rfl⟩ := List.cons.inj same
      simp [first, second] at distinct
  | cons z before ih =>
    cases before' with
    | nil =>
      obtain ⟨rfl, rfl⟩ := List.cons.inj same
      simp [first, second] at distinct
    | cons z' before' =>
      exact ih (List.cons.inj same).2 (distinct.sublist ((List.sublist_cons_self ..).filterMap f))

/-- The group of one token only has a name, so the same pieces stand behind two groups that have it. -/
theorem eq_after_of_opened [Regex.Engine] {before before' after after' : List Piece}
    {token token' : Token} (expanded : library.expand expression namedOnly maxDepth = .ok result)
    (first : result.pieces = before ++ .opening token (some name) :: after)
    (second : result.pieces = before' ++ .opening token' (some name) :: after') : after = after' := by
  have distinct := (records_of_expand expanded).distinct
  rw [openings, List.filterMap_filterMap, first] at distinct
  have named (token : Token) : (Piece.opening token (some name)).opening?.bind (·.2) = some name := rfl
  exact after_eq_of_nodup (first.symm.trans second) (named token) (named token') distinct

theorem handwritten_of_found (found : library.lookup? name = some body) :
    handwritten library name = declares body := by
  rw [handwritten, found]

/-- A body that declares a name is copied once. -/
theorem eq_of_single {i j : Nat} {other : Token} {group' : Option String}
    (single : ((result.tokens.map (·.pattern)).filter fun name =>
      handwritten library name ≠ []).Nodup)
    (first : result.openings[i]? = some (token, group))
    (second : result.openings[j]? = some (other, group'))
    (same : token.pattern = other.pattern) (declares : handwritten library token.pattern ≠ []) :
    i = j := by
  rw [List.Nodup, List.pairwise_filter, tokens, List.map_map, List.pairwise_map,
    List.pairwise_iff_getElem] at single
  obtain ⟨low, first⟩ := List.getElem?_eq_some_iff.1 first
  obtain ⟨low', second⟩ := List.getElem?_eq_some_iff.1 second
  have names : ¬ i < j ∧ ¬ j < i := by
    constructor
    · intro before
      exact single i j low low' before (by simpa [first]) (by simpa [second, ← same])
        (by simp [first, second, same])
    · intro behind
      exact single j i low' low behind (by simpa [second, ← same]) (by simpa [first])
        (by simp [first, second, same])
  omega

/-- Copies of texts that declare one name are the same copy. -/
theorem CopyOf.eq_of_declares [Regex.Engine] {k' : Nat} {body' : String}
    (expanded : library.expand expression namedOnly maxDepth = .ok result)
    (apart : Apart library expression namedOnly)
    (single : ((result.tokens.map (·.pattern)).filter fun name =>
      handwritten library name ≠ []).Nodup)
    (copy : CopyOf library expression result k body)
    (copy' : CopyOf library expression result k' body') (here : name ∈ declares body)
    (there : name ∈ declares body') : k = k' := by
  have reach {k : Nat} {token : Token} {group : Option String}
      (opened : result.openings[k]? = some (token, group)) :
      library.Reach (Token.patterns expression) token.pattern :=
    (occurs_of_opened expanded (List.mem_of_getElem? opened)).reach
  cases copy with
  | expression =>
    cases copy' with
    | expression => rfl
    | body opened' found' =>
      rw [← handwritten_of_found found'] at there
      exact absurd there (apart.outside _ (reach opened') here)
  | @body k token group _ opened found =>
    rw [← handwritten_of_found found] at here
    cases copy' with
    | expression => exact absurd here (apart.outside _ (reach opened) there)
    | @body k' other _ _ opened' found' =>
      rw [← handwritten_of_found found'] at there
      by_cases same : token.pattern = other.pattern
      · rw [eq_of_single single opened opened' same (List.ne_nil_of_mem here)]
      · exact absurd there (apart.between _ _ (reach opened) (reach opened') same here)

theorem mem_declaredIn (member : head ∈ headsOf result.source.toList)
    (found : copyAt? {} head.text.length result.pieces = some k) :
    head.name ∈ result.declaredIn k :=
  List.mem_map.2 ⟨head, List.mem_filter.2 ⟨member, by simpa using found⟩, rfl⟩

/-- Heads in a copy that declares no name twice are told apart by their names. -/
theorem eq_of_declaredIn {other : Head} (distinct : (result.declaredIn k).Nodup)
    (member : head ∈ headsOf result.source.toList) (member' : other ∈ headsOf result.source.toList)
    (found : copyAt? {} head.text.length result.pieces = some k)
    (found' : copyAt? {} other.text.length result.pieces = some k)
    (same : head.name = other.name) : head = other :=
  List.inj_on_of_nodup_map distinct (List.mem_filter.2 ⟨member, by simpa using found⟩)
    (List.mem_filter.2 ⟨member', by simpa using found'⟩) same

/-- The name of the group of a token is declared by no text, if none declares an encoded field or an
    alias. -/
theorem not_declared_of_opened [Regex.Engine] {before after : List Piece}
    (expanded : library.expand expression namedOnly maxDepth = .ok result)
    (apart : Apart library expression namedOnly)
    (aliases : ∀ group field, result.captures[group]? = some field →
      group ≠ FieldName.encode field → ∀ text, Origin library expression text →
        group ∉ declares text)
    (stands : result.pieces = before ++ .opening token (some name) :: after)
    (origin : Origin library expression body) : name ∉ declares body := by
  have opened : (token, some name) ∈ result.openings := by simp [openings, stands, Piece.opening?]
  obtain ⟨field, occurs, captured, told⟩ := exists_field_of_opened expanded opened
  by_cases same : name = FieldName.encode field
  · exact same ▸ apart.unencoded token occurs field captured body origin
  · exact aliases name field told same body origin

theorem nodup_declared [Regex.Engine]
    (expanded : library.expand expression namedOnly maxDepth = .ok result)
    (apart : Apart library expression namedOnly)
    (single : ((result.tokens.map (·.pattern)).filter fun name =>
      handwritten library name ≠ []).Nodup)
    (aliases : ∀ group field, result.captures[group]? = some field →
      group ≠ FieldName.encode field → ∀ text, Origin library expression text →
        group ∉ declares text)
    (inPlace : InPlace library expression result) : (declared result.source.toList).Nodup := by
  have declares_of {head : Head} {k : Nat} {text : String}
      (copy : CopyOf library expression result k text)
      (member : head ∈ headsOf result.source.toList)
      (found : copyAt? {} head.text.length result.pieces = some k) : head.name ∈ declares text :=
    (inPlace.subperm expanded copy).subset (mem_declaredIn member found)
  rw [declared, List.Nodup, List.pairwise_map]
  refine (Regex.pairwise_headsOf _).imp_of_mem fun {head later} member member' behind same => ?_
  rcases head_cases expanded member with
    ⟨k, text, found, copy, _⟩ | ⟨_, before, token, after, stands, spelled⟩
  · have here := declares_of copy member found
    rcases head_cases expanded member' with
      ⟨k', text', found', copy', _⟩ | ⟨_, before', token', after', stands', _⟩
    · -- Both are written by hand, so they stand in one copy, and have different names there.
      have there := declares_of copy' member' found'
      obtain rfl := copy.eq_of_declares expanded apart single copy' here (same ▸ there)
      obtain ⟨names, order, part⟩ := inPlace.subperm expanded copy
      have once := order.nodup_iff.1 ((apart.own text (copy.origin expanded)).sublist part)
      rw [eq_of_declaredIn once member member' found found' same] at behind
      exact Nat.lt_irrefl _ behind
    · exact not_declared_of_opened expanded apart aliases stands' (copy.origin expanded) (same ▸ here)
  · rcases head_cases expanded member' with
      ⟨k', text', found', copy', _⟩ | ⟨_, before', token', after', stands', spelled'⟩
    · exact not_declared_of_opened expanded apart aliases stands (copy'.origin expanded)
        (same ▸ declares_of copy' member' found')
    · rw [← same] at stands' spelled'
      rw [spelled, spelled', eq_after_of_opened expanded stands stands'] at behind
      exact Nat.lt_irrefl _ behind

/-- Expansion makes no name of a group come twice if no body with a name by hand is copied twice, no name
    by hand is that of an alias, and copies declare in their places what their texts do by themselves. -/
theorem expand_distinct [Regex.Engine] (library : Library) (expression : String) (namedOnly : Bool)
    (settings : Settings) (result : Expansion)
    (expanded : library.expand expression namedOnly settings.maxDepth = .ok result)
    (apart : Apart library expression namedOnly)
    (single : ((result.tokens.map (·.pattern)).filter fun name =>
      handwritten library name ≠ []).Nodup)
    (aliases : ∀ group field, result.captures[group]? = some field →
      group ≠ FieldName.encode field → ∀ text, Origin library expression text →
        group ∉ declares text)
    (inPlace : InPlace library expression result) :
    (declared result.source.toList).Nodup ∧
    (∀ limit, Regex.ofString? result.source limit ≠ .error .duplicateGroupName) ∧
    ∀ error, Matcher.compile library expression namedOnly settings = .error error →
      ∃ e ≠ Regex.Error.duplicateGroupName,
        Regex.ofString? result.source (settings.sizeLimit.getD Regex.Expr.defaultLimit) =
          .error e ∧
        error = .invalidExpression (Regex.Engine.explain result.source e) := by
  have distinct := nodup_declared expanded apart single aliases inPlace
  have read : ∀ limit, Regex.ofString? result.source limit ≠ .error .duplicateGroupName :=
    fun limit refused => (Regex.ofString?_eq_duplicate_iff _ _).1 refused distinct
  refine ⟨distinct, read, fun error failed => ?_⟩
  unfold Matcher.compile Matcher.ofExpansion at failed
  rw [expanded] at failed
  simp only [bind, Except.bind] at failed
  split at failed
  · cases failed
  · next e refused =>
    cases failed
    exact ⟨e, fun twice => read _ (twice ▸ refused), refused, rfl⟩

/-- By itself, a text without signs of groups with names has none, as the groups in the place of its tokens
    have no names. -/
theorem signed_alone (unsigned : Unsigned text) : Signed (fun _ => False) (alone text) := by
  generalize measure : text.length = size
  induction size using Nat.strongRecOn generalizing text with
  | ind size ih =>
    cases split : Token.first? text with
    | none =>
      rw [alone_of_none split]
      exact unsigned.signed
    | some found =>
      obtain ⟨before, token, after⟩ := found
      have spelled : text = before ++ token.chars ++ after := (Token.first?_eq_append split).2
      have front : before <:+: text := ⟨[], token.chars ++ after, by simp [spelled]⟩
      have rear : after <:+: text := ⟨before ++ token.chars, [], by simp [spelled]⟩
      have shorter := measure ▸ Token.length_of_first? split
      have behind := ih after.length shorter (unsigned.of_infix rear) rfl
      have closed : Signed (fun _ => False) (')' :: alone after) := behind.cons (by decide)
      have opened : Signed (fun _ => False) (Expansion.head none ++ (')' :: alone after)) :=
        closed.head nofun
      rw [alone_of_some split]
      exact (unsigned.of_infix front).signed.append opened (by decide)

theorem declares_of_unsigned (unsigned : Unsigned body.toList) : declares body = [] := by
  refine List.eq_nil_iff_forall_not_mem.2 fun name member => ?_
  obtain ⟨head, found, -⟩ := List.mem_map.1 member
  obtain ⟨suffix, named⟩ := Regex.suffix_of_mem_headsOf found
  obtain ⟨-, sign, known, rest, begun⟩ := Regex.headName?_eq_some_iff.1 named
  obtain ⟨_, _, never, _⟩ := signed_alone unsigned head.text suffix sign known _ begun
  exact never

/-- Where no text writes the sign of a group with a name, no name comes twice, however often fields are
    captured and patterns referred to. -/
theorem nodup_declared_of_unsigned [Regex.Engine]
    (expanded : library.expand expression namedOnly maxDepth = .ok result)
    (unsigned : ∀ text, Origin library expression text → Unsigned text.toList) :
    (declared result.source.toList).Nodup := by
  have none {text : String} (origin : Origin library expression text) : declares text = [] :=
    declares_of_unsigned (unsigned text origin)
  have empty {name : String} (reach : library.Reach (Token.patterns expression) name) :
      handwritten library name = [] := by
    unfold handwritten
    split
    · next body found => exact none (.body reach found)
    · rfl
  refine nodup_declared expanded ⟨?_, ?_, ?_, ?_⟩ ?_ ?_ ?_
  · exact fun text origin => by simp [none origin]
  · exact fun name reach => by simp [empty reach]
  · exact fun name other reach _ _ => by simp [empty reach]
  · exact fun token _ field _ text origin => by simp [none origin]
  · rw [List.filter_eq_nil_iff.2]
    · exact List.nodup_nil
    · intro name member
      obtain ⟨token, opened, rfl⟩ := List.mem_map.1 member
      obtain ⟨⟨_, group⟩, emits, rfl⟩ := List.mem_map.1 opened
      simp [empty (occurs_of_opened expanded emits).reach]
  · exact fun group field _ _ text origin => by simp [none origin]
  · exact fun k text copy signed => absurd (unsigned text (copy.origin expanded)) signed

/-! ### Groups by hand -/

/-- A library for a letter, for a letter in a group with a name, and for a body that is a class unless the
    verbose form is on, where it is a group with a name behind a comment. -/
def hands : Library := (letters.insert "H" "(?P<h>b)").insert "V" "# [\n(?P<g>x)]"

theorem lookup?_hands : hands.lookup? "A" = some "a" ∧ hands.lookup? "H" = some "(?P<h>b)" ∧
    hands.lookup? "V" = some "# [\n(?P<g>x)]" := by
  simp [hands, letters, Library.lookup?_insert]

theorem declares_of_none (split : Token.first? body.toList = none) :
    declares body = declared body.toList := by
  rw [declares, alone_of_none split]

/-- Bodies of the library hold no tokens, and only the letter in a group declares a name by itself. -/
theorem body_hands (known : name ∈ ["A", "H", "V"]) : ∃ body, hands.lookup? name = some body ∧
    Token.first? body.toList = none ∧ declares body = if name = "H" then ["h"] else [] := by
  obtain ⟨letter, group, comment⟩ := lookup?_hands
  simp only [List.mem_cons, List.not_mem_nil, or_false] at known
  rcases known with rfl | rfl | rfl
  · exact ⟨_, letter, rfl, (declares_of_none rfl).trans (by decide +kernel)⟩
  · exact ⟨_, group, rfl, (declares_of_none rfl).trans (by decide +kernel)⟩
  · exact ⟨_, comment, rfl, (declares_of_none rfl).trans (by decide +kernel)⟩

theorem handwritten_hands (known : name ∈ ["A", "H", "V"]) :
    handwritten hands name = if name = "H" then ["h"] else [] := by
  obtain ⟨body, found, _, told⟩ := body_hands known
  rw [handwritten_of_found found, told]

/-- An expression leads to the names that it refers to, and the tokens that occur are its own. -/
theorem reach_hands {tokens : List Token} (all : Token.all expression = tokens)
    (known : ∀ token ∈ tokens, token.pattern ∈ ["A", "H", "V"]) :
    (∀ name, hands.Reach (Token.patterns expression) name →
      ∃ token ∈ tokens, token.pattern = name) ∧
    ∀ token, Occurs hands expression token → token ∈ tokens := by
  have leaf {token : Token} {body : String} (member : token ∈ tokens)
      (found : hands.lookup? token.pattern = some body) : Token.all body = [] := by
    obtain ⟨_, found', plain, _⟩ := body_hands (known token member)
    obtain rfl := Option.some.inj (found.symm.trans found')
    exact Token.tokens_of_none plain
  have roots : ∀ root ∈ Token.patterns expression, ∃ token ∈ tokens, token.pattern = root := by
    intro root member
    rw [Token.patterns, all] at member
    exact List.mem_map.1 member
  have reached : ∀ name, hands.Reach (Token.patterns expression) name →
      ∃ token ∈ tokens, token.pattern = name := by
    intro name reach
    refine roots name (Library.mem_of_reach_leaves (fun root member body found => ?_) reach)
    obtain ⟨token, stands, rfl⟩ := roots root member
    rw [Token.patterns, leaf stands found]
    rfl
  refine ⟨reached, fun token occurs => ?_⟩
  rcases occurs with stands | ⟨name, body, reach, found, stands⟩
  · exact all ▸ stands
  · obtain ⟨root, member, rfl⟩ := reached name reach
    rw [leaf member found] at stands
    cases stands

/-- What the texts of the expression declare by themselves. -/
theorem declares_hands {tokens : List Token} {text : String} (all : Token.all expression = tokens)
    (known : ∀ token ∈ tokens, token.pattern ∈ ["A", "H", "V"])
    (origin : Origin hands expression text) :
    declares text = declares expression ∨ declares text = [] ∨ declares text = ["h"] := by
  cases origin with
  | expression => exact .inl rfl
  | @body name _ reach found =>
    obtain ⟨token, member, rfl⟩ := (reach_hands all known).1 name reach
    have told := handwritten_hands (known token member)
    rw [handwritten_of_found found] at told
    refine .inr ?_
    by_cases group : token.pattern = "H"
    · exact .inr (by simpa [group] using told)
    · exact .inl (by simpa [group] using told)

theorem apart_hands {tokens : List Token} {names : List String}
    (all : Token.all expression = tokens)
    (known : ∀ token ∈ tokens, token.pattern ∈ ["A", "H", "V"])
    (written : declares expression = names) (own : names.Nodup) (outside : "h" ∉ names)
    (unencoded : ∀ token ∈ tokens, ∀ field, token.fieldName? namedOnly = some field →
      FieldName.encode field ∉ "h" :: names) : Apart hands expression namedOnly := by
  have occurs := (reach_hands all known).2
  have told {name : String} (reach : hands.Reach (Token.patterns expression) name) :
      handwritten hands name = if name = "H" then ["h"] else [] := by
    obtain ⟨token, member, rfl⟩ := (reach_hands all known).1 name reach
    exact handwritten_hands (known token member)
  constructor
  · intro text stands
    rcases written ▸ declares_hands all known stands with same | same | same
    · exact same ▸ own
    · simp [same]
    · simp [same]
  · intro name reach
    rw [told reach, written]
    split
    · simpa using outside
    · simp
  · intro name other reach reach' differs
    rw [told reach, told reach']
    by_cases group : name = "H"
    · simp [group, show other ≠ "H" from fun same => differs (group.trans same.symm)]
    · simp [group]
  · intro token stands field captured text copied
    have apart := unencoded token (occurs token stands) field captured
    rw [List.mem_cons, not_or] at apart
    rcases written ▸ declares_hands all known copied with same | same | same
    · rw [same]
      exact apart.2
    · simp [same]
    · simpa [same] using apart.1

/-- A token whose body holds no tokens is passed, and the body stands in a group then. -/
theorem exists_passed {rest : List Char} {entry : Naming} (namedOnly : Bool) (maxDepth : Nat)
    (out : Output) (split : Token.first? rest = some ⟨before, token, after⟩) (deep : 0 < maxDepth)
    (found : library.lookup? token.pattern = some body) (plain : Token.first? body.toList = none)
    (entered : out.naming.enter token namedOnly = .ok (group, entry)) :
    ∃ left : Output, left.naming = entry ∧
      left.pieces = .closing :: .text body.toList :: .opening token group :: .text before :: out.pieces ∧
      ∀ finished, Runs library namedOnly maxDepth [⟨none, after⟩] left finished →
        Runs library namedOnly maxDepth [⟨none, rest⟩] out finished := by
  cases opened : (out.emit (.text before)).openToken token namedOnly with
  | error e =>
    have refused := enter_of_openToken_error opened
    cases entered.symm.trans refused
  | ok inner =>
    obtain ⟨group', entered', pieces, _⟩ := enter_of_openToken opened
    obtain ⟨rfl, rfl⟩ := Prod.mk.inj (Except.ok.inj (entered.symm.trans entered'))
    have text : Expansion.body library maxDepth (openNamesOf [⟨none, rest⟩]) 0 token = .ok body := by
      simp [Expansion.body, openNamesOf, found, Nat.ne_of_gt deep]
    refine ⟨(inner.emit (.text body.toList)).emit .closing, rfl, ?_, fun finished onward => ?_⟩
    · simp [Output.emit, pieces]
    · exact .enter split text opened (.leave plain onward)

/-- An expression with groups by hand, one of which is behind an escaped parenthesis and declares no name,
    and with a field that is captured twice. -/
def blend : String := "\\(?<x___y>(?P<g>c)%{A:x.y}%{H}%{A:x.y}"

/-- What is spelled by the expansion of the expression. -/
def blended : List Piece :=
  [.text "\\(?<x___y>(?P<g>c)".toList, .opening ⟨"A", some "x.y", none⟩ (some "x___y"),
    .text "a".toList, .closing, .text [], .opening ⟨"H", none, none⟩ none,
    .text "(?P<h>b)".toList, .closing, .text [],
    .opening ⟨"A", some "x.y", none⟩ (some "x___y__2"), .text "a".toList, .closing, .text []]

theorem first?_blend :
    Token.first? blend.toList = some ⟨"\\(?<x___y>(?P<g>c)".toList, ⟨"A", some "x.y", none⟩,
      "%{H}%{A:x.y}".toList⟩ ∧
    Token.first? "%{H}%{A:x.y}".toList = some ⟨[], ⟨"H", none, none⟩, "%{A:x.y}".toList⟩ ∧
    Token.first? "%{A:x.y}".toList = some ⟨[], ⟨"A", some "x.y", none⟩, []⟩ :=
  ⟨rfl, rfl, rfl⟩

theorem blend_expands [Regex.Engine] : ∃ result : Expansion,
    hands.expand blend true 1000 = .ok result ∧ result.pieces = blended ∧
    result.captures = ((∅ : TreeMap String String).insert "x___y" "x.y").insert "x___y__2" "x.y" := by
  obtain ⟨split₁, split₂, split₃⟩ := first?_blend
  obtain ⟨letter, group, _⟩ := lookup?_hands
  have carried : FieldName.isReserved "x.y" = false := by decide
  have fresh₁ : freshGroup (namesOf ∅) (FieldName.encode "x.y") = "x___y" := by decide
  have fresh₂ : freshGroup (namesOf ((∅ : TreeMap String String).insert "x___y" "x.y"))
      (FieldName.encode "x.y") = "x___y__2" := by decide +kernel
  obtain ⟨first, naming₁, pieces₁, run₁⟩ := exists_passed true 1000 {} split₁ (by decide) letter
    rfl (Naming.enter_field carried fresh₁)
  obtain ⟨second, naming₂, pieces₂, run₂⟩ := exists_passed true 1000 first split₂ (by decide) group
    rfl rfl
  have captured : second.naming.captures = (∅ : TreeMap String String).insert "x___y" "x.y" := by
    rw [naming₂, naming₁]
    rfl
  obtain ⟨third, naming₃, pieces₃, run₃⟩ := exists_passed true 1000 second split₃ (by decide) letter
    rfl (Naming.enter_field carried (captured ▸ fresh₂))
  have runs := run₁ _ (run₂ _ (run₃ _ (.leave rfl .done)))
  refine ⟨_, expand_eq_ok_iff.2 ⟨_, runs, rfl⟩, ?_, ?_⟩
  · simp [ofOutput, Output.emit, pieces₁, pieces₂, pieces₃, blended]
  · have told : third.captures = _ := congrArg Naming.captures naming₃
    rw [captured] at told
    exact told

theorem tokens_blend : Token.all blend =
    [⟨"A", some "x.y", none⟩, ⟨"H", none, none⟩, ⟨"A", some "x.y", none⟩] := by
  obtain ⟨split₁, split₂, split₃⟩ := first?_blend
  show Token.tokens blend.toList = _
  rw [Token.tokens_of_some split₁, Token.tokens_of_some split₂, Token.tokens_of_some split₃,
    Token.tokens_of_none rfl]

/-- The escaped parenthesis begins no group. -/
theorem declares_blend : declares blend = ["g"] := by
  obtain ⟨split₁, split₂, split₃⟩ := first?_blend
  rw [declares, alone_of_some split₁, alone_of_some split₂, alone_of_some split₃, alone_of_none rfl]
  decide +kernel

/-- In its place, every copy declares what its text does. -/
theorem inPlace_blend {result : Expansion} (pieces : result.pieces = blended) :
    InPlace hands blend result := by
  have openings : result.openings = [(⟨"A", some "x.y", none⟩, some "x___y"),
      (⟨"H", none, none⟩, none), (⟨"A", some "x.y", none⟩, some "x___y__2")] := by
    rw [openings, pieces]
    rfl
  have places : result.declaredIn 0 = ["g"] ∧ result.declaredIn 1 = [] ∧
      result.declaredIn 2 = ["h"] ∧ result.declaredIn 3 = [] := by
    simp only [declaredIn, source, pieces, String.toList_ofList]
    decide +kernel
  intro k text copy _
  cases copy with
  | expression =>
    rw [places.1, declares_blend]
  | @body k token group _ opened found =>
    rw [← handwritten_of_found found]
    rw [openings] at opened
    rcases k with _ | _ | _ | k
    · rw [places.2.1]
      exact List.nil_subperm
    · obtain rfl : _ = token := congrArg Prod.fst (Option.some.inj opened)
      rw [places.2.2.1, handwritten_hands (by decide)]
      rfl
    · rw [places.2.2.2]
      exact List.nil_subperm
    · cases opened

/-- Repeats of a field and of a pattern do not make a name of a group come twice. -/
theorem expand_distinct_blend : ∃ result : Expansion,
    hands.expand blend true 1000 = .ok result ∧
    result.source = "\\(?<x___y>(?P<g>c)(?P<x___y>a)(?:(?P<h>b))(?P<x___y__2>a)" ∧
    declared result.source.toList = ["g", "x___y", "h", "x___y__2"] ∧
    (declared result.source.toList).Nodup ∧
    ∀ limit, Regex.ofString? result.source limit ≠ .error .duplicateGroupName := by
  obtain ⟨result, expanded, pieces, captures⟩ := blend_expands
  have source : result.source = "\\(?<x___y>(?P<g>c)(?P<x___y>a)(?:(?P<h>b))(?P<x___y__2>a)" := by
    rw [Expansion.source, pieces]
    decide +kernel
  have known : ∀ token ∈ [(⟨"A", some "x.y", none⟩ : Token), ⟨"H", none, none⟩,
      ⟨"A", some "x.y", none⟩], token.pattern ∈ ["A", "H", "V"] := by decide
  have apart : Apart hands blend true :=
    apart_hands tokens_blend known declares_blend (by decide) (by decide) (by decide)
  have single : ((result.tokens.map (·.pattern)).filter fun name =>
      handwritten hands name ≠ []).Nodup := by
    rw [tokens, openings, pieces]
    have patterns : ((blended.filterMap Piece.opening?).map (·.1)).map (·.pattern) = ["A", "H", "A"] := rfl
    rw [patterns]
    simp [handwritten_hands]
  have aliases : ∀ group field, result.captures[group]? = some field →
      group ≠ FieldName.encode field →
      ∀ text, Origin hands blend text → group ∉ declares text := by
    intro group field told differs text origin
    have groups : group = "x___y__2" ∨ (group = "x___y" ∧ field = "x.y") := by
      rw [captures, TreeMap.getElem?_insert] at told
      by_cases second : group = "x___y__2"
      · exact .inl second
      · rw [if_neg (by simpa using Ne.symm second), TreeMap.getElem?_insert] at told
        by_cases first : group = "x___y"
        · exact .inr ⟨first, by simpa [first, eq_comm] using told⟩
        · rw [if_neg (by simpa using Ne.symm first)] at told
          simp at told
    rcases groups with rfl | ⟨rfl, rfl⟩
    · rcases declares_blend ▸ declares_hands tokens_blend known origin with same | same | same
      · simp [same]
      · simp [same]
      · simp [same]
    · exact absurd (by decide) differs
  obtain ⟨distinct, read, _⟩ :=
    expand_distinct hands blend true {} result expanded apart single aliases (inPlace_blend pieces)
  exact ⟨result, expanded, source, by rw [source]; decide +kernel, distinct, read⟩

/-- A token without a field becomes a group without a name, if only named fields are wanted. -/
theorem nests_unnamed {naming final : Naming} {rear : List Char} {pattern : String}
    (split : Token.first? text = some ⟨before, ⟨pattern, none, none⟩, after⟩) (deep : 0 < maxDepth)
    (found : library.lookup? pattern = some body) (plain : Token.first? body.toList = none)
    (later : Nests library true maxDepth [] naming after rear final) :
    Nests library true maxDepth [] naming text
      (before ++ Expansion.head none ++ body.toList ++ ")".toList ++ rear) final :=
  .token split List.not_mem_nil deep found rfl (.plain plain) later

/-- An expression is refused if what it expands to declares a name twice. -/
theorem refused_of_nests [Regex.Engine] {final : Naming} {names : List String}
    (nests : Nests library true 1000 [] {} expression.toList text final)
    (told : declared text = names) (twice : ¬ names.Nodup) :
    ∃ result, library.expand expression true 1000 = .ok result ∧
      declared result.source.toList = names ∧
      Matcher.compile library expression true {} =
        .error (.invalidExpression (Regex.Engine.explain result.source .duplicateGroupName)) := by
  have whole := expand_nested library expression true 1000
  rw [nested_eq_ok_iff.2 nests] at whole
  obtain ⟨result, expanded, source, _⟩ := whole
  have names : declared result.source.toList = names := by rw [source, String.toList_ofList, told]
  have refused := (Regex.ofString?_eq_duplicate_iff result.source Regex.Expr.defaultLimit).2
    (names ▸ twice)
  refine ⟨result, expanded, names, ?_⟩
  simp [Matcher.compile, expanded, Matcher.ofExpansion, refused, bind, Except.bind]

/-- What comes of an expression that is some text and the same body twice. -/
theorem twice_hands [Regex.Engine] {pattern : String} {front later : List Char}
    (names : List String) (known : pattern ∈ ["A", "H", "V"]) (found : hands.lookup? pattern = some body)
    (split : Token.first? expression.toList = some ⟨front, ⟨pattern, none, none⟩, later⟩)
    (split' : Token.first? later = some ⟨[], ⟨pattern, none, none⟩, []⟩)
    (quiet : declared (front ++ "(?:)(?:)".toList) = [])
    (told : declared (front ++ Regex.Reader.spliced body.toList ++ Regex.Reader.spliced body.toList) =
      names) (twice : ¬ names.Nodup) :
    Apart hands expression true ∧
    (handwritten hands pattern = [] → ∀ text, Origin hands expression text → declares text = []) ∧
    ∃ result, hands.expand expression true 1000 = .ok result ∧
      declared result.source.toList = names ∧
      Matcher.compile hands expression true {} =
        .error (.invalidExpression (Regex.Engine.explain result.source .duplicateGroupName)) := by
  have all : Token.all expression = [⟨pattern, none, none⟩, ⟨pattern, none, none⟩] := by
    show Token.tokens _ = _
    rw [Token.tokens_of_some split, Token.tokens_of_some split', Token.tokens_of_none rfl]
  have known' : ∀ token ∈ [(⟨pattern, none, none⟩ : Token), ⟨pattern, none, none⟩],
      token.pattern ∈ ["A", "H", "V"] := by simpa using known
  have written : declares expression = [] := by
    rw [declares, alone_of_some split, alone_of_some split', alone_of_none rfl]
    simpa using quiet
  have plain : Token.first? body.toList = none := by
    obtain ⟨_, found', plain, _⟩ := body_hands known
    exact Option.some.inj (found.symm.trans found') ▸ plain
  have nests : Nests hands true 1000 [] {} expression.toList _ _ :=
    nests_unnamed split (by decide) found plain <|
      nests_unnamed split' (by decide) found plain (.plain rfl)
  refine ⟨apart_hands all known' written (by decide) (by decide) (by simp [Token.fieldName?]),
    fun silent text origin => ?_, refused_of_nests nests ?_ twice⟩
  · cases origin with
    | expression => exact written
    | body reach found =>
      obtain ⟨token, member, rfl⟩ := (reach_hands all known').1 _ reach
      obtain rfl : token = ⟨pattern, none, none⟩ := by simpa using member
      rw [← handwritten_of_found found, silent]
  · rw [← told]
    simp [Regex.Reader.spliced, Expansion.head]

/-- Texts that declare by themselves different names, and none of an encoded field, may expand to one that
    declares a name twice: where a body with a name by hand is copied twice, where a name by hand is that
    of an alias, or where copies declare names in their places which no text declares by itself. -/
theorem declared_twice :
    (Apart hands "%{H}%{H}" true ∧ ∃ result, hands.expand "%{H}%{H}" true 1000 = .ok result ∧
      declared result.source.toList = ["h", "h"] ∧
      Matcher.compile hands "%{H}%{H}" true {} =
        .error (.invalidExpression (Regex.Engine.explain result.source .duplicateGroupName))) ∧
    (Apart hands "(?P<x__2>a)%{A:x}%{A:x}" true ∧ ∃ result,
      hands.expand "(?P<x__2>a)%{A:x}%{A:x}" true 1000 = .ok result ∧
      declared result.source.toList = ["x__2", "x", "x__2"] ∧
      Matcher.compile hands "(?P<x__2>a)%{A:x}%{A:x}" true {} =
        .error (.invalidExpression (Regex.Engine.explain result.source .duplicateGroupName))) ∧
    Apart hands "(?x)%{V}%{V}" true ∧
      (∀ text, Origin hands "(?x)%{V}%{V}" text → declares text = []) ∧ ∃ result,
      hands.expand "(?x)%{V}%{V}" true 1000 = .ok result ∧
      declared result.source.toList = ["g", "g"] ∧
      Matcher.compile hands "(?x)%{V}%{V}" true {} =
        .error (.invalidExpression (Regex.Engine.explain result.source .duplicateGroupName)) := by
  obtain ⟨letter, group, comment⟩ := lookup?_hands
  refine ⟨?_, ?_, ?_⟩
  · have split : Token.first? "%{H}%{H}".toList =
        some ⟨[], ⟨"H", none, none⟩, "%{H}".toList⟩ := rfl
    have split' : Token.first? "%{H}".toList = some ⟨[], ⟨"H", none, none⟩, []⟩ := rfl
    obtain ⟨apart, -, refused⟩ := twice_hands ["h", "h"] (by decide) group split split'
      (by decide +kernel) (by decide +kernel) (by decide)
    exact ⟨apart, refused⟩
  · have split : Token.first? "(?P<x__2>a)%{A:x}%{A:x}".toList =
        some ⟨"(?P<x__2>a)".toList, ⟨"A", some "x", none⟩, "%{A:x}".toList⟩ := rfl
    have split' : Token.first? "%{A:x}".toList = some ⟨[], ⟨"A", some "x", none⟩, []⟩ := rfl
    have all : Token.all "(?P<x__2>a)%{A:x}%{A:x}" =
        [⟨"A", some "x", none⟩, ⟨"A", some "x", none⟩] := by
      show Token.tokens _ = _
      rw [Token.tokens_of_some split, Token.tokens_of_some split', Token.tokens_of_none rfl]
    have written : declares "(?P<x__2>a)%{A:x}%{A:x}" = ["x__2"] := by
      rw [declares, alone_of_some split, alone_of_some split', alone_of_none rfl]
      decide +kernel
    have carried : FieldName.isReserved "x" = false := by decide
    have fresh : freshGroup (namesOf ∅) (FieldName.encode "x") = "x" := by decide
    have fresh' : freshGroup (namesOf ((∅ : TreeMap String String).insert "x" "x"))
        (FieldName.encode "x") = "x__2" := by decide +kernel
    have nests : Nests hands true 1000 [] {} "(?P<x__2>a)%{A:x}%{A:x}".toList _ _ :=
      nests_group split letter rfl carried fresh (by decide) <|
        nests_group split' letter rfl carried fresh' (by decide) (.plain rfl)
    exact ⟨apart_hands all (by decide) written (by decide) (by decide) (by decide),
      refused_of_nests nests (by decide +kernel) (by decide)⟩
  · have split : Token.first? "(?x)%{V}%{V}".toList =
        some ⟨"(?x)".toList, ⟨"V", none, none⟩, "%{V}".toList⟩ := rfl
    have split' : Token.first? "%{V}".toList = some ⟨[], ⟨"V", none, none⟩, []⟩ := rfl
    obtain ⟨apart, silent, refused⟩ := twice_hands ["g", "g"] (by decide) comment split split'
      (by decide +kernel) (by decide +kernel) (by decide)
    exact ⟨apart, silent (handwritten_hands (by decide)), refused⟩

end Expansion

end LogSift
