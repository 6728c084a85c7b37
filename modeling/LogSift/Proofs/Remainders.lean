import LogSift.Regex.Escape
import Mathlib.Data.List.Infix

/-!
What the readers of regular expressions leave of a text. Where something is left, it is left with all
that follows the text (`Steady.ahead`). Where nothing is left, a closing parenthesis that follows is
left; or the text ends within a comment, which swallows the rest of its line (`Steady.last`).
-/

namespace LogSift.Regex

variable {R S T : List Char → List Char → Prop} {cs middle rest : List Char} {flags : Flags}

/-- A number sign stands on the last line of a text. -/
def OpenLine (cs : List Char) : Prop :=
  ∃ before comment, cs = before ++ '#' :: comment ∧ '\n' ∉ comment

/-- Reading, as a relation of texts and what is left of them, goes the same way when more follows. -/
structure Steady (R : List Char → List Char → Prop) (cs rest : List Char) : Prop where
  here : R cs rest
  suffix : rest <:+ cs
  ahead : rest ≠ [] → ∀ more, R (cs ++ more) (rest ++ more)
  last : rest = [] → (∀ more, R (cs ++ ')' :: more) (')' :: more)) ∨
    OpenLine cs ∧ ∀ line, '\n' ∉ line → R (cs ++ line) []

theorem OpenLine.of_suffix (opened : OpenLine rest) (suffix : rest <:+ cs) : OpenLine cs := by
  obtain ⟨before, comment, rfl, single⟩ := opened
  obtain ⟨front, rfl⟩ := suffix
  exact ⟨front ++ before, comment, by simp, single⟩

theorem not_openLine_nil : ¬ OpenLine [] := by
  rintro ⟨before, comment, same, _⟩
  simp at same

theorem ne_nil_of_suffix {c : Char} {cs rest : List Char} (suffix : c :: rest <:+ cs) : cs ≠ [] := by
  rintro rfl
  simp at suffix

theorem bind_eq_ok {α β : Type} {x : Except Error α} {f : α → Except Error β} {b : β}
    (h : x >>= f = .ok b) : ∃ a, x = .ok a ∧ f a = .ok b := by
  cases x with
  | error e => cases h
  | ok a => exact ⟨a, rfl, h⟩

/-- A name before a sign is what stands before the first such sign. -/
theorem span_append {stop : Char} {name : List Char} (apart : stop ∉ name) (rest : List Char) :
    (name ++ stop :: rest).takeWhile (· != stop) = name ∧
      (name ++ stop :: rest).dropWhile (· != stop) = stop :: rest := by
  have all : ∀ c ∈ name, (c != stop) = true := fun c member =>
    bne_iff_ne.2 fun same => apart (same ▸ member)
  constructor
  · simp [List.takeWhile_append_of_pos all]
  · simp [List.dropWhile_append_of_pos all]

theorem eq_of_dropWhile {stop c : Char} (found : cs.dropWhile (· != stop) = c :: rest) :
    cs = cs.takeWhile (· != stop) ++ stop :: rest ∧ stop ∉ cs.takeWhile (· != stop) := by
  have first := List.head?_dropWhile_not (· != stop) cs
  rw [found] at first
  obtain rfl : c = stop := by simpa using first
  refine ⟨found ▸ List.takeWhile_append_dropWhile.symm, fun member => ?_⟩
  simpa using List.all_eq_true.1 List.all_takeWhile _ member

/-! ### Putting readings together -/

theorem steady_of_forall (suffix : rest <:+ cs) (all : ∀ more, R (cs ++ more) (rest ++ more)) :
    Steady R cs rest := by
  refine ⟨by simpa using all [], suffix, fun _ => all, ?_⟩
  rintro rfl
  exact .inl fun more => all (')' :: more)

theorem steady_refl (all : ∀ cs, R cs cs) (cs : List Char) : Steady R cs cs :=
  steady_of_forall (List.suffix_refl cs) fun _ => all _

/-- A text that does not begin with a sign does not do so when more follows. -/
theorem steady_apart {sign : Char} (other : sign ≠ ')') (apart : ∀ after, cs ≠ sign :: after) :
    Steady (fun cs rest => rest = cs ∧ ∀ after, cs ≠ sign :: after) cs cs := by
  refine ⟨⟨rfl, apart⟩, List.suffix_refl cs, fun remains more => ⟨rfl, fun after begun => ?_⟩, ?_⟩
  · cases cs with
    | nil => exact remains rfl
    | cons c cs => exact apart cs (congrArg (· :: cs) (List.cons.inj begun).1)
  · rintro rfl
    exact .inl fun more => ⟨rfl, fun after begun => other (List.cons.inj begun).1.symm⟩

theorem Steady.mono (steady : Steady R cs rest)
    (implied : ∀ more left, R (cs ++ more) left → T (cs ++ more) left) : Steady T cs rest := by
  refine ⟨by simpa using implied [] rest (by simpa using steady.here), steady.suffix, ?_, ?_⟩
  · exact fun some more => implied more _ (steady.ahead some more)
  · intro none
    rcases steady.last none with ends | ⟨opened, swallows⟩
    · exact .inl fun more => implied _ _ (ends more)
    · exact .inr ⟨opened, fun line single => implied _ _ (swallows line single)⟩

/-- One reading after another; whatever follows the text, the second one begins as it did. -/
theorem Steady.trans (first : Steady R cs middle) (second : Steady S middle rest) :
    Steady (fun cs rest => ∃ more, R cs (middle ++ more) ∧ S (middle ++ more) rest) cs rest := by
  refine ⟨⟨[], by simpa using ⟨first.here, second.here⟩⟩, second.suffix.trans first.suffix, ?_, ?_⟩
  · intro some more
    have between : middle ≠ [] := by
      rintro rfl
      exact some (List.suffix_nil.1 second.suffix)
    exact ⟨more, first.ahead between more, second.ahead some more⟩
  · rintro rfl
    by_cases between : middle = []
    · subst between
      rcases first.last rfl with ends | ⟨opened, swallows⟩
      · rcases second.last rfl with ends' | ⟨opened', _⟩
        · exact .inl fun more => ⟨')' :: more, ends more, ends' more⟩
        · exact absurd opened' not_openLine_nil
      · exact .inr ⟨opened, fun line single => ⟨[], swallows line single, second.here⟩⟩
    · rcases second.last rfl with ends | ⟨opened, swallows⟩
      · exact .inl fun more => ⟨')' :: more, first.ahead between _, ends more⟩
      · exact .inr ⟨opened.of_suffix first.suffix, fun line single =>
          ⟨line, first.ahead between _, swallows line single⟩⟩

/-- A character before what is read. -/
theorem Steady.cons (steady : Steady R cs rest) (c : Char) :
    Steady (fun cs rest => R cs.tail rest) (c :: cs) rest := by
  refine ⟨steady.here, steady.suffix.trans (List.suffix_cons c cs), steady.ahead, ?_⟩
  exact fun none => (steady.last none).imp_right fun ⟨opened, swallows⟩ =>
    ⟨opened.of_suffix (List.suffix_cons c cs), swallows⟩

/-! ### Blank and comments -/

namespace Flags

/-- A character is left out or ends the reading. A comment goes on behind the sign that begins it,
    and behind any character that does not end the line. -/
theorem skipVerbose_cons (inComment : Bool) (c : Char) :
    (∃ next, (∀ rest, skipVerbose inComment (c :: rest) = skipVerbose next rest) ∧
      (next = true → c = '#' ∨ inComment = true ∧ c ≠ '\n')) ∨
    inComment = false ∧ ∀ rest, skipVerbose inComment (c :: rest) = c :: rest := by
  simp only [skipVerbose]
  split
  · next within => exact .inl ⟨_, fun _ => rfl, fun next => .inr ⟨within, by simpa using next⟩⟩
  · next outside =>
    split
    · exact .inl ⟨false, fun _ => rfl, fun next => by cases next⟩
    · split
      · next sign => exact .inl ⟨true, fun _ => rfl, fun _ => .inl (by simpa using sign)⟩
      · exact .inr ⟨by simpa using outside, fun _ => rfl⟩

theorem skipVerbose_suffix (inComment : Bool) (cs : List Char) :
    skipVerbose inComment cs <:+ cs := by
  induction cs generalizing inComment with
  | nil => exact List.suffix_refl _
  | cons c rest ih =>
    rcases skipVerbose_cons inComment c with ⟨next, skips, _⟩ | ⟨_, stays⟩
    · rw [skips]
      exact (ih next).trans (List.suffix_cons c rest)
    · rw [stays]

theorem skipVerbose_append_of_ne {inComment : Bool} (some : skipVerbose inComment cs ≠ [])
    (more : List Char) : skipVerbose inComment (cs ++ more) = skipVerbose inComment cs ++ more := by
  induction cs generalizing inComment with
  | nil => exact absurd rfl some
  | cons c rest ih =>
    rw [List.cons_append]
    rcases skipVerbose_cons inComment c with ⟨next, skips, _⟩ | ⟨_, stays⟩
    · rw [skips] at some
      rw [skips, skips, ih some]
    · rw [stays, stays, List.cons_append]

/-- A text that is left out altogether ends within a comment or not. -/
theorem skipVerbose_append_of_eq_nil {inComment : Bool} (none : skipVerbose inComment cs = []) :
    (∀ more, skipVerbose inComment (cs ++ more) = skipVerbose false more) ∨
    (OpenLine cs ∨ inComment = true ∧ '\n' ∉ cs) ∧
      ∀ more, skipVerbose inComment (cs ++ more) = skipVerbose true more := by
  induction cs generalizing inComment with
  | nil =>
    cases inComment with
    | false => exact .inl fun more => rfl
    | true => exact .inr ⟨.inr ⟨rfl, List.not_mem_nil⟩, fun more => rfl⟩
  | cons c rest ih =>
    rcases skipVerbose_cons inComment c with ⟨next, skips, begun⟩ | ⟨_, stays⟩
    · rw [skips] at none
      simp only [List.cons_append, skips]
      refine (ih none).imp_right fun ⟨opened, swallows⟩ => ⟨?_, swallows⟩
      rcases opened with opened | ⟨comment, single⟩
      · exact .inl (opened.of_suffix (List.suffix_cons c rest))
      · rcases begun comment with rfl | ⟨within, other⟩
        · exact .inl ⟨[], rest, rfl, single⟩
        · exact .inr ⟨within, by simp [other.symm, single]⟩
    · rw [stays] at none
      cases none

theorem skipVerbose_line {line : List Char} (single : '\n' ∉ line) :
    skipVerbose true line = [] := by
  induction line with
  | nil => rfl
  | cons c rest ih =>
    obtain ⟨other, single⟩ : '\n' ≠ c ∧ '\n' ∉ rest := by simpa using single
    have goes : (c != '\n') = true := bne_iff_ne.2 other.symm
    rw [skipVerbose, if_pos rfl, goes, ih single]

/-- What has been skipped leaves nothing to skip. -/
theorem skip_skip (flags : Flags) (cs : List Char) : flags.skip (flags.skip cs) = flags.skip cs := by
  have again (inComment : Bool) :
      skipVerbose false (skipVerbose inComment cs) = skipVerbose inComment cs := by
    induction cs generalizing inComment with
    | nil => rfl
    | cons c rest ih =>
      rcases skipVerbose_cons inComment c with ⟨next, skips, _⟩ | ⟨rfl, stays⟩
      · rw [skips, ih]
      · rw [stays, stays]
  unfold skip
  split
  · exact again false
  · rfl

/-- What is skipped ends for good, or goes on as a comment. -/
theorem steady_skip (flags : Flags) (cs : List Char) :
    Steady (fun cs rest => flags.skip cs = rest) cs (flags.skip cs) := by
  unfold skip
  cases flags.verbose with
  | false => exact steady_refl (fun _ => rfl) cs
  | true =>
    refine ⟨rfl, skipVerbose_suffix false cs, fun some => skipVerbose_append_of_ne some, ?_⟩
    intro none
    rcases skipVerbose_append_of_eq_nil none with ends | ⟨opened, swallows⟩
    · have visible : Unicode.isBlank ')' = false := by decide
      exact .inl fun more => (ends _).trans (by simp [skipVerbose, visible])
    · exact .inr ⟨opened.resolve_right (by simp), fun line single =>
        (swallows line).trans (skipVerbose_line single)⟩

/-- Flags are read up to a sign that is left. -/
theorem read_append {seen : List Char} {found : Flags} {any : Bool}
    (read : flags.read seen cs = .ok (found, any, rest)) :
    rest ≠ [] ∧ rest <:+ cs ∧
      ∀ more, flags.read seen (cs ++ more) = .ok (found, any, rest ++ more) := by
  induction cs generalizing flags seen with
  | nil => cases read
  | cons c cs ih =>
    have onward {flags' : Flags} (read : flags'.read (c :: seen) cs = .ok (found, any, rest)) :
        rest ≠ [] ∧ rest <:+ c :: cs ∧
          ∀ more, flags'.read (c :: seen) (cs ++ more) = .ok (found, any, rest ++ more) := by
      obtain ⟨some, suffix, all⟩ := ih read
      exact ⟨some, suffix.trans (List.suffix_cons c cs), all⟩
    simp only [List.cons_append, Flags.read] at read ⊢
    split at read
    · next ends =>
      simp only [ends, if_true]
      split at read
      · cases read
      · next whole =>
        cases read
        exact ⟨List.cons_ne_nil _ _, List.suffix_refl _, fun more => if_neg whole⟩
    · next goes =>
      simp only [goes, if_false]
      split at read
      · cases read
      · next fresh =>
        simp only [fresh, Bool.false_eq_true, if_false]
        split at read
        · next hyphen =>
          subst hyphen
          exact onward read
        · next letter =>
          simp only [letter, if_false]
          cases set : flags.set? c (!seen.contains '-') with
          | none =>
            rw [set] at read
            cases read
          | some flags' =>
            rw [set] at read
            exact onward read

/-- Reads characters of a kind, leaving out blank in the verbose form. -/
def readWhile (flags : Flags) (kind : Char → Bool) (fuel : Nat) (cs : List Char) :
    List Char × List Char :=
  match fuel, cs with
  | fuel + 1, c :: rest =>
    if kind c then
      let (more, rest) := readWhile flags kind fuel (flags.skip rest)
      (c :: more, rest)
    else ([], cs)
  | _, cs => ([], cs)

theorem readWhile_suffix (flags : Flags) (kind : Char → Bool) (fuel : Nat) (cs : List Char) :
    (flags.readWhile kind fuel cs).2 <:+ cs := by
  induction fuel generalizing cs with
  | zero => exact List.suffix_refl _
  | succ fuel ih =>
    cases cs with
    | nil => exact List.suffix_refl _
    | cons c rest =>
      rw [readWhile]
      split
      · exact ((ih _).trans (steady_skip flags rest).suffix).trans (List.suffix_cons c rest)
      · exact List.suffix_refl _

/-- Characters that are followed by something are read the same when more follows. -/
theorem readWhile_append {kind : Char → Bool} {fuel fuel' : Nat} {more : List Char}
    (some : (flags.readWhile kind fuel cs).2 ≠ []) (enough : cs.length ≤ fuel)
    (enough' : (cs ++ more).length ≤ fuel') :
    flags.readWhile kind fuel' (cs ++ more) =
      ((flags.readWhile kind fuel cs).1, (flags.readWhile kind fuel cs).2 ++ more) := by
  induction fuel generalizing cs fuel' with
  | zero =>
    obtain rfl : cs = [] := List.eq_nil_of_length_eq_zero (Nat.le_zero.1 enough)
    exact absurd rfl some
  | succ fuel ih =>
    cases cs with
    | nil => exact absurd rfl some
    | cons c rest =>
      obtain ⟨fuel', rfl⟩ : ∃ k, fuel' = k + 1 :=
        Nat.exists_eq_succ_of_ne_zero (by simp at enough'; omega)
      rw [List.cons_append, readWhile, readWhile]
      rw [readWhile] at some
      split at some
      · next found =>
        have between : flags.skip rest ≠ [] := by
          intro none
          rw [none] at some
          exact some (List.suffix_nil.1 (readWhile_suffix flags kind fuel []))
        have shorter := length_skip_le flags rest
        simp only [List.cons_append, List.length_cons, List.length_append] at enough enough'
        have onward : (flags.skip rest ++ more).length ≤ fuel' := by
          rw [List.length_append]
          omega
        simp only [if_pos found, (steady_skip flags rest).ahead between more,
          ih some (by omega) onward]
      · next other => rw [if_neg other, if_neg other]; rfl

end Flags

/-! ### Escapes -/

namespace Escape

open Flags (steady_skip)

variable {count sum n fuel : Nat} {chars : List Char} {negated : Bool} {primitive : Primitive}

theorem steady_readHex (read : readHex flags count sum cs = .ok (n, rest)) :
    Steady (fun cs rest => readHex flags count sum cs = .ok (n, rest)) cs rest := by
  induction count generalizing sum cs with
  | zero =>
    cases read
    exact steady_of_forall (List.suffix_refl _) fun _ => rfl
  | succ count ih =>
    cases cs with
    | nil => cases read
    | cons c cs =>
      rw [readHex] at read
      cases value : Digits.value? c with
      | none =>
        rw [value] at read
        cases read
      | some d =>
        rw [value] at read
        refine (((steady_skip flags _).trans (ih read)).cons c).mono ?_
        rintro more left ⟨behind, skipped, hex⟩
        rw [List.cons_append, List.tail_cons] at skipped
        rw [List.cons_append, readHex, value, skipped]
        exact hex

/-- Braces are read up to the closing one, so that more may follow. -/
theorem readBraced_append (read : readBraced flags fuel cs = some (chars, rest)) :
    rest <:+ cs ∧ ∀ more fuel', fuel ≤ fuel' →
      readBraced flags fuel' (cs ++ more) = some (chars, rest ++ more) := by
  induction fuel generalizing cs chars with
  | zero => simp [readBraced] at read
  | succ fuel ih =>
    have skips := steady_skip flags cs
    cases begun : flags.skip cs with
    | nil => simp [readBraced, begun] at read
    | cons c body =>
      rw [begun] at skips
      have ahead (more) : flags.skip (cs ++ more) = c :: (body ++ more) :=
        skips.ahead (List.cons_ne_nil c body) more
      have within := (List.suffix_cons c body).trans skips.suffix
      by_cases brace : c = '\x7d'
      · subst brace
        obtain ⟨rfl, rfl⟩ : [] = chars ∧ body = rest := by simpa [readBraced, begun] using read
        refine ⟨within, fun more fuel' enough => ?_⟩
        obtain ⟨fuel', rfl⟩ := Nat.exists_eq_succ_of_ne_zero (by omega : fuel' ≠ 0)
        simp [readBraced, ahead]
      · obtain ⟨chars', read', rfl⟩ : ∃ chars', readBraced flags fuel body = some (chars', rest) ∧
            c :: chars' = chars := by
          simpa [readBraced, begun, brace] using read
        obtain ⟨suffix, all⟩ := ih read'
        refine ⟨suffix.trans within, fun more fuel' enough => ?_⟩
        obtain ⟨fuel', rfl⟩ := Nat.exists_eq_succ_of_ne_zero (by omega : fuel' ≠ 0)
        simp [readBraced, ahead, all more fuel' (by omega)]

theorem steady_readBraced {cs : List Char}
    (read : readBraced flags (cs.length + 1) cs = some (chars, rest)) :
    Steady (fun cs rest => readBraced flags (cs.length + 1) cs = some (chars, rest)) cs rest := by
  obtain ⟨suffix, all⟩ := readBraced_append read
  exact steady_of_forall suffix fun more => all more _ (by simp)

theorem steady_readCode (read : readCode flags count cs = .ok (primitive, rest)) :
    Steady (fun cs rest => readCode flags count cs = .ok (primitive, rest)) cs rest := by
  have skips := steady_skip flags cs
  unfold readCode at read
  split at read
  · cases read
  · next digits begun =>
    split at read
    · cases read
    · next chars after braced =>
      cases found : ofHexDigits chars with
      | error e =>
        rw [found] at read
        cases read
      | ok c =>
        rw [found] at read
        cases read
        rw [begun] at skips
        have body := ((steady_readBraced braced).trans (steady_skip flags after)).cons '\x7b'
        refine (skips.trans body).mono ?_
        rintro more left ⟨behind, skipped, behind', braced', skipped'⟩
        rw [List.cons_append, List.tail_cons] at braced'
        simp only [readCode, skipped, List.cons_append, braced', found, Except.map, skipped']
  · next some brace =>
    obtain ⟨⟨n, left⟩, hex, read⟩ := bind_eq_ok read
    cases code : scalar? n with
    | none =>
      simp only [code] at read
      cases read
    | some c =>
      simp only [code] at read
      cases read
      cases begun : flags.skip cs with
      | nil => exact absurd begun some
      | cons d body =>
        have other : d ≠ '\x7b' := by
          rintro rfl
          exact brace body begun
        rw [begun] at skips hex
        refine (skips.trans (steady_readHex hex)).mono ?_
        rintro more left ⟨behind, skipped, hex'⟩
        rw [List.cons_append] at skipped hex'
        simp [readCode, skipped, hex', other, code, bind, Except.bind]

theorem steady_readProperty (read : readProperty flags negated cs = .ok (primitive, rest)) :
    Steady (fun cs rest => readProperty flags negated cs = .ok (primitive, rest)) cs rest := by
  have skips := steady_skip flags cs
  unfold readProperty at read
  split at read
  · cases read
  · next name begun =>
    split at read
    · cases read
    · next chars after braced =>
      cases read
      rw [begun] at skips
      refine (skips.trans ((steady_readBraced braced).cons '\x7b')).mono ?_
      rintro more left ⟨behind, skipped, braced'⟩
      rw [List.cons_append, List.tail_cons] at braced'
      simp only [readProperty, skipped, List.cons_append, braced']
      rfl
  · cases read
  · next c body brace backslash begun =>
    cases read
    rw [begun] at skips
    refine (skips.trans ((steady_skip flags body).cons c)).mono ?_
    rintro more left ⟨behind, skipped, skipped'⟩
    rw [List.cons_append, List.tail_cons] at skipped'
    simp [readProperty, skipped, skipped']

theorem readWord_eq (flags : Flags) (fuel : Nat) (cs : List Char) : readWord flags fuel cs =
    flags.readWhile (fun c => c.isAlpha || c == '-') fuel cs := by
  induction fuel generalizing cs with
  | zero => rfl
  | succ fuel ih =>
    cases cs with
    | nil => rfl
    | cons c rest => rw [readWord, Flags.readWhile, ih]

theorem steady_readWord {cs word : List Char}
    (read : readWord flags cs.length cs = (word, '\x7d' :: rest)) :
    Steady (fun cs rest => readWord flags cs.length cs = (word, '\x7d' :: rest)) cs rest := by
  simp only [readWord_eq] at read ⊢
  have suffix := Flags.readWhile_suffix flags (fun c => c.isAlpha || c == '-') cs.length cs
  rw [read] at suffix
  refine steady_of_forall ((List.suffix_cons _ rest).trans suffix) fun more => ?_
  rw [Flags.readWhile_append (by simp [read]) le_rfl le_rfl, read]
  rfl

/-- The condition that a word in braces names. -/
def boundaryOf (flags : Flags) (word : List Char) : Except Error Primitive :=
  if word = "start".toList then .ok (.look (.wordStart flags.unicode))
  else if word = "end".toList then .ok (.look (.wordEnd flags.unicode))
  else if word = "start-half".toList then .ok (.look (.wordStartHalf flags.unicode))
  else if word = "end-half".toList then .ok (.look (.wordEndHalf flags.unicode))
  else .error .unknownEscape

theorem readBoundary_of_word {kind more word : List Char} {c : Char}
    (begun : flags.skip kind = c :: more) (letter : (c.isAlpha || c == '-') = true)
    (spelled : readWord flags (c :: more).length (c :: more) = (word, '\x7d' :: rest)) :
    readBoundary flags ('\x7b' :: kind) = (boundaryOf flags word).map (·, rest) := by
  rw [List.length_cons] at spelled
  simp only [readBoundary, begun, letter, if_true, spelled, boundaryOf]
  repeat' split
  all_goals rfl

/-- Braces that begin no kind of boundary are left, as is all else behind the escape. -/
theorem steady_readBoundary (read : readBoundary flags cs = .ok (primitive, rest)) :
    Steady (fun cs rest => readBoundary flags cs = .ok (primitive, rest)) cs rest := by
  have whole := read
  unfold readBoundary at read
  split at read
  · next kind =>
    have skips := steady_skip flags kind
    split at read
    · cases read
    · next c more begun =>
      rw [begun] at skips
      split at read
      · next letter =>
        split at read
        · next word after spelled =>
          rw [← List.length_cons] at spelled
          rw [readBoundary_of_word begun letter spelled] at whole
          cases told : boundaryOf flags word with
          | error e =>
            rw [told] at whole
            cases whole
          | ok condition =>
            rw [told] at whole
            cases whole
            refine ((skips.trans (steady_readWord spelled)).cons '\x7b').mono ?_
            rintro further left ⟨behind, skipped, spelled'⟩
            rw [List.cons_append, List.tail_cons] at skipped
            rw [List.cons_append, readBoundary_of_word skipped letter spelled', told]
            rfl
        · cases read
      · next other =>
        cases read
        have ahead (further) : flags.skip (kind ++ further) = c :: (more ++ further) :=
          skips.ahead (List.cons_ne_nil c more) further
        refine steady_of_forall (List.suffix_refl _) fun further => ?_
        simp only [readBoundary, List.cons_append, ahead, other, Bool.false_eq_true, if_false]
  · next apart =>
    cases read
    refine (steady_apart (by decide) apart).mono ?_
    rintro more left ⟨rfl, plain⟩
    unfold readBoundary
    split
    · next kind same => exact absurd same (plain kind)
    · rfl

/-- Any other escape ends with its letter. -/
theorem read_of_plain {c : Char} (plain : c ∉ ['x', 'u', 'U', 'p', 'P', 'b']) (flags : Flags)
    (rest : List Char) :
    read flags (c :: rest) = (read flags [c]).map fun found => (found.1, rest) := by
  simp only [List.mem_cons, List.not_mem_nil, or_false, not_or] at plain
  obtain ⟨x, u, long, property, outside, boundary⟩ := plain
  simp only [read]
  split
  case h_24 => split <;> rfl
  all_goals first | rfl | contradiction

theorem steady_read (read : read flags cs = .ok (primitive, rest)) :
    Steady (fun cs rest => Escape.read flags cs = .ok (primitive, rest)) cs rest := by
  cases cs with
  | nil => cases read
  | cons c body =>
    by_cases plain : c ∉ ['x', 'u', 'U', 'p', 'P', 'b']
    · rw [read_of_plain plain] at read
      cases told : Escape.read flags [c] with
      | error e =>
        rw [told] at read
        cases read
      | ok found =>
        rw [told] at read
        cases read
        refine steady_of_forall (List.suffix_cons c rest) fun more => ?_
        rw [List.cons_append, read_of_plain plain, told]
        rfl
    · simp only [List.mem_cons, List.not_mem_nil, or_false, not_not] at plain
      rcases plain with rfl | rfl | rfl | rfl | rfl | rfl
      · exact ((steady_readCode read).cons 'x').mono fun more left read => read
      · exact ((steady_readCode read).cons 'u').mono fun more left read => read
      · exact ((steady_readCode read).cons 'U').mono fun more left read => read
      · exact ((steady_readProperty read).cons 'p').mono fun more left read => read
      · exact ((steady_readProperty read).cons 'P').mono fun more left read => read
      · exact ((steady_readBoundary read).cons 'b').mono fun more left read => read

end Escape

end LogSift.Regex
