import LogSift.Proofs.Remainders
import LogSift.Regex.Class

/-!
Classes are read up to the bracket that closes them, so what follows the bracket is left, whatever it
is (`steady_read`).
-/

namespace LogSift.Regex.Class

open Flags (steady_skip)
open Unicode (CharSet)

variable {cs rest more : List Char} {flags : Flags} {primitive : Primitive} {set : CharSet}
  {fuel height : Nat} {negated : Bool} {operand : Operand} {before : Option (Op × CharSet × Nat)}

/-! ### Items -/

theorem steady_readPrimitive (read : readPrimitive flags cs = .ok (primitive, rest)) :
    Steady (fun cs rest => readPrimitive flags cs = .ok (primitive, rest)) cs rest ∧
      rest <:+ cs.tail := by
  unfold readPrimitive at read
  split at read
  · cases read
  · next body =>
    have steady := Escape.steady_read read
    exact ⟨(steady.cons '\\').mono fun more left read => read, steady.suffix⟩
  · next c body _ =>
    cases read
    refine ⟨steady_of_forall (List.suffix_cons c rest) fun more => ?_, List.suffix_refl rest⟩
    simp [readPrimitive]

/-- The character that decides about a range does not change when more follows. -/
theorem peekVerbose_append {inComment : Bool} {c : Char}
    (found : peekVerbose inComment cs = some c) (more : List Char) :
    peekVerbose inComment (cs ++ more) = some c := by
  induction cs generalizing inComment with
  | nil => cases found
  | cons d cs ih =>
    simp only [List.cons_append, peekVerbose] at found ⊢
    split at found
    · next blank => simp only [blank, if_true, ih found]
    · next visible =>
      simp only [visible, Bool.false_eq_true, if_false]
      split at found
      · next sign => simp only [sign, if_true, ih found]
      · next other => simp [other, found]

/-- Where nothing decides about a range, nothing is left to read. -/
theorem skipVerbose_of_peekVerbose {inComment : Bool} (none : peekVerbose inComment cs = none)
    (outside : Bool) (same : inComment = false → outside = false) :
    Flags.skipVerbose outside cs = [] := by
  induction cs generalizing inComment outside with
  | nil => rfl
  | cons c cs ih =>
    rw [peekVerbose] at none
    rw [Flags.skipVerbose]
    split at none
    · next blank =>
      split
      · next within =>
        cases inComment with
        | false => cases (same rfl).symm.trans within
        | true => exact ih none _ (by simp)
      · exact ih none false fun _ => rfl
    · next visible =>
      split at none
      · next sign =>
        obtain ⟨rfl, number⟩ : inComment = false ∧ (c == '#') = true := by simpa using sign
        rw [same rfl]
        simp only [Bool.false_eq_true, if_false, visible, number, if_true]
        exact ih none true (by simp)
      · cases none

theorem peek_append {c : Char} (found : peek flags cs = some c) (more : List Char) :
    peek flags (cs ++ more) = peek flags cs := by
  unfold peek at found ⊢
  cases verbose : flags.verbose with
  | false =>
    cases cs with
    | nil => simp [verbose] at found
    | cons c cs => rfl
  | true =>
    simp only [verbose, if_true] at found ⊢
    rw [peekVerbose_append found, found]

theorem exists_peek (remains : flags.skip cs ≠ []) : ∃ c, peek flags cs = some c := by
  refine Option.ne_none_iff_exists'.1 fun none => remains ?_
  unfold peek at none
  unfold Flags.skip
  cases verbose : flags.verbose with
  | false =>
    rw [verbose] at none
    simpa using none
  | true =>
    rw [verbose] at none
    exact skipVerbose_of_peekVerbose none false fun _ => rfl

/-- A range is read up to its end. -/
theorem readItem_range {first : Primitive} {behind after : List Char}
    (begins : readPrimitive flags cs = .ok (first, behind)) (begun : flags.skip behind = '-' :: after)
    (range : ¬ (peek flags after = some ']' ∨ peek flags after = some '-'))
    (read : readItem flags cs = .ok (set, rest)) (remains : rest ≠ []) :
    rest <:+ cs.tail ∧ ∀ more, readItem flags (cs ++ more) = .ok (set, rest ++ more) := by
  obtain ⟨steady, within⟩ := steady_readPrimitive begins
  have skips := steady_skip flags behind
  rw [begun] at skips
  have skipped := skips.ahead (List.cons_ne_nil _ _)
  have ahead := steady.ahead (ne_nil_of_suffix skips.suffix)
  obtain ⟨_, begins', read⟩ := bind_eq_ok read
  obtain rfl := Except.ok.inj (begins.symm.trans begins')
  simp only [begun, if_neg range] at read
  obtain ⟨⟨last, left⟩, last_read, read⟩ := bind_eq_ok read
  obtain ⟨⟨low, lowByte⟩, low_end, read⟩ := bind_eq_ok read
  obtain ⟨⟨high, highByte⟩, high_end, read⟩ := bind_eq_ok read
  dsimp only at read
  split at read
  · cases read
  · next ordered =>
    obtain ⟨low', low_read, read⟩ := bind_eq_ok read
    obtain ⟨high', high_read, read⟩ := bind_eq_ok read
    cases read
    have last_steady := (steady_readPrimitive last_read).1
    have skips' := steady_skip flags after
    have between : flags.skip after ≠ [] := fun none =>
      remains (List.suffix_nil.1 (none ▸ last_steady.suffix))
    refine ⟨(((last_steady.suffix.trans skips'.suffix).trans
      (List.suffix_cons '-' after)).trans skips.suffix).trans within, fun more => ?_⟩
    obtain ⟨c, decides⟩ := exists_peek between
    rw [← peek_append decides more] at range
    simp only [readItem, ahead, bind, Except.bind, skipped, List.cons_append, if_neg range,
      skips'.ahead between, last_steady.ahead remains, low_end, high_end, if_neg ordered,
      low_read, high_read]

theorem readItem_append (read : readItem flags cs = .ok (set, rest)) (remains : rest ≠ []) :
    rest <:+ cs.tail ∧ ∀ more, readItem flags (cs ++ more) = .ok (set, rest ++ more) := by
  have whole := read
  obtain ⟨⟨first, behind⟩, begins, read⟩ := bind_eq_ok read
  obtain ⟨steady, within⟩ := steady_readPrimitive begins
  have skips := steady_skip flags behind
  have ahead (remains : flags.skip behind ≠ []) (more : List Char) :
      readPrimitive flags (cs ++ more) = .ok (first, behind ++ more) :=
    steady.ahead (fun none => remains (List.suffix_nil.1 (none ▸ skips.suffix))) more
  dsimp only at read
  split at read
  · cases read
  · next after begun =>
    split at read
    · next alone =>
      cases single : setOf flags first with
      | error e =>
        rw [single] at read
        cases read
      | ok s =>
        rw [single] at read
        cases read
        rw [begun] at skips ahead
        have ahead := ahead (List.cons_ne_nil _ _)
        have skipped := skips.ahead (List.cons_ne_nil _ _)
        refine ⟨skips.suffix.trans within, fun more => ?_⟩
        obtain ⟨c, decides⟩ : ∃ c, peek flags after = some c := by
          rcases alone with closes | hyphen
          · exact ⟨_, closes⟩
          · exact ⟨_, hyphen⟩
        rw [← peek_append decides more] at alone
        simp only [readItem, ahead, bind, Except.bind, skipped, List.cons_append, if_pos alone,
          single, Except.map]
    · next range => exact readItem_range begins begun range whole remains
  · next ends hyphen =>
    cases single : setOf flags first with
    | error e =>
      rw [single] at read
      cases read
    | ok s =>
      rw [single] at read
      cases read
      refine ⟨skips.suffix.trans within, fun more => ?_⟩
      cases begun : flags.skip behind with
      | nil => exact (ends begun).elim
      | cons c after =>
        have other : c ≠ '-' := fun same => hyphen after (same ▸ begun)
        have skipped := skips.ahead remains more
        rw [begun, List.cons_append] at skipped
        simp only [readItem, ahead remains, bind, Except.bind, skipped, single, Except.map]
        split
        · next none => cases none
        · next same => exact absurd (List.cons.inj same).1 other
        · rfl

/-! ### The beginning of a class -/

theorem readHyphens_eq (flags : Flags) (fuel : Nat) (operand : Operand) (cs : List Char) :
    readHyphens flags fuel operand cs =
      ((flags.readWhile (· == '-') fuel cs).1.foldl (fun operand _ =>
        operand.add (.singleton '-') 0) operand, (flags.readWhile (· == '-') fuel cs).2) := by
  induction fuel generalizing operand cs with
  | zero => rfl
  | succ fuel ih =>
    cases cs with
    | nil => rfl
    | cons c rest =>
      by_cases hyphen : c = '-'
      · subst hyphen
        rw [readHyphens, ih]
        rfl
      · have other : (c == '-') = false := beq_eq_false_iff_ne.2 hyphen
        simp [readHyphens, Flags.readWhile, other, hyphen]

/-- The beginning of a class behind its negation. -/
def openingOf (flags : Flags) (negated : Bool) (cs : List Char) : Bool × Operand × List Char :=
  match readHyphens flags (cs.length + 1) {} cs with
  | (operand, cs) =>
    match operand.items, cs with
    | 0, ']' :: rest => (negated, operand.add (.singleton ']') 0, flags.skip rest)
    | _, cs => (negated, operand, cs)

theorem readOpening_of_caret (begun : flags.skip cs = '^' :: rest) :
    readOpening flags cs = openingOf flags true (flags.skip rest) := by
  simp only [readOpening, begun]
  rfl

theorem readOpening_of_not_caret (begun : ∀ rest, flags.skip cs ≠ '^' :: rest) :
    readOpening flags cs = openingOf flags false (flags.skip cs) := by
  simp only [readOpening]
  rfl

theorem readHyphens_append (remains : (readHyphens flags (cs.length + 1) operand cs).2 ≠ [])
    (more : List Char) : readHyphens flags ((cs ++ more).length + 1) operand (cs ++ more) =
      ((readHyphens flags (cs.length + 1) operand cs).1,
        (readHyphens flags (cs.length + 1) operand cs).2 ++ more) := by
  simp only [readHyphens_eq] at remains ⊢
  rw [Flags.readWhile_append remains (Nat.le_succ _) (Nat.le_succ _)]

theorem readHyphens_suffix (flags : Flags) (fuel : Nat) (operand : Operand) (cs : List Char) :
    (readHyphens flags fuel operand cs).2 <:+ cs := by
  rw [readHyphens_eq]
  exact Flags.readWhile_suffix ..

theorem openingOf_append {negated' : Bool}
    (opened : openingOf flags negated cs = (negated', operand, rest)) (remains : rest ≠ []) :
    rest <:+ cs ∧ ∀ more, openingOf flags negated (cs ++ more) = (negated', operand, rest ++ more) := by
  have suffix := readHyphens_suffix flags (cs.length + 1) {} cs
  have append (remains : (readHyphens flags (cs.length + 1) {} cs).2 ≠ []) (more : List Char) :=
    readHyphens_append remains more
  unfold openingOf at opened ⊢
  generalize readHyphens flags (cs.length + 1) {} cs = hyphens at *
  obtain ⟨found, after⟩ := hyphens
  dsimp only at opened suffix append
  split at opened
  · next bracket none =>
    cases opened
    refine ⟨((steady_skip flags _).suffix.trans (List.suffix_cons ']' _)).trans suffix,
      fun more => ?_⟩
    rw [append (List.cons_ne_nil _ _)]
    simp only [List.cons_append, none, (steady_skip flags _).ahead remains]
  · next apart =>
    cases opened
    refine ⟨suffix, fun more => ?_⟩
    rw [append remains]
    cases rest with
    | nil => exact absurd rfl remains
    | cons c body =>
      dsimp only [List.cons_append]
      split
      · next bracket none same =>
        obtain ⟨rfl, _⟩ := List.cons.inj same
        exact (apart body none rfl).elim
      · rfl

theorem readOpening_append (opened : readOpening flags cs = (negated, operand, rest))
    (remains : rest ≠ []) :
    rest <:+ cs ∧ ∀ more, readOpening flags (cs ++ more) = (negated, operand, rest ++ more) := by
  have skips := steady_skip flags cs
  by_cases caret : ∃ after, flags.skip cs = '^' :: after
  · obtain ⟨after, begun⟩ := caret
    rw [readOpening_of_caret begun] at opened
    rw [begun] at skips
    obtain ⟨suffix, append⟩ := openingOf_append opened remains
    have skips' := steady_skip flags after
    refine ⟨((suffix.trans skips'.suffix).trans (List.suffix_cons '^' after)).trans skips.suffix,
      fun more => ?_⟩
    have between : flags.skip after ≠ [] := fun none =>
      remains (List.suffix_nil.1 (none ▸ suffix))
    have skipped : flags.skip (cs ++ more) = '^' :: (after ++ more) :=
      skips.ahead (List.cons_ne_nil _ _) more
    rw [readOpening_of_caret skipped, skips'.ahead between, append]
  · have plain := not_exists.1 caret
    rw [readOpening_of_not_caret plain] at opened
    obtain ⟨suffix, append⟩ := openingOf_append opened remains
    refine ⟨suffix.trans skips.suffix, fun more => ?_⟩
    have between : flags.skip cs ≠ [] := fun none => remains (List.suffix_nil.1 (none ▸ suffix))
    have skipped := skips.ahead between more
    rw [readOpening_of_not_caret, skipped, append]
    intro after begun
    rw [skipped] at begun
    cases same : flags.skip cs with
    | nil => exact between same
    | cons c body =>
      rw [same] at begun
      exact plain body (same.trans (congrArg (· :: body) (List.cons.inj begun).1))

/-! ### Named classes and operations -/

/-- The names of classes are made of letters. -/
theorem isAlpha_of_named? {name : String} (named : named? name = some set) :
    ∀ c ∈ name.toList, c.isAlpha = true := by
  unfold named? at named
  split at named
  case h_15 => cases named
  all_goals exact List.all_eq_true.1 (by decide)

/-- A named class behind its sign of negation. -/
def namedOf (negated : Bool) (cs : List Char) : Option (CharSet × Bool × List Char) :=
  match cs.dropWhile (· != ':') with
  | ':' :: ']' :: rest =>
    (named? (.ofList (cs.takeWhile (· != ':')))).map fun s => (s, negated, rest)
  | _ => none

theorem namedOf_eq_some_iff {negated' : Bool} :
    namedOf negated' cs = some (set, negated, rest) ↔ negated' = negated ∧
      ∃ name, cs = name ++ ':' :: ']' :: rest ∧ ':' ∉ name ∧ named? (.ofList name) = some set := by
  constructor
  · intro named
    unfold namedOf at named
    split at named
    · next after ends =>
      obtain ⟨s, found, same⟩ := Option.map_eq_some_iff.1 named
      cases same
      obtain ⟨split, plain⟩ := eq_of_dropWhile ends
      exact ⟨rfl, _, split, plain, found⟩
    · cases named
  · rintro ⟨rfl, name, rfl, plain, found⟩
    obtain ⟨before, behind⟩ := span_append plain (']' :: rest)
    rw [namedOf, behind]
    simp only [before, found, Option.map_some]

theorem readNamed?_of_ne {body : List Char} (plain : ∀ rest, body ≠ '^' :: rest) :
    readNamed? ('[' :: ':' :: body) = namedOf false body := by
  simp only [readNamed?]
  rfl

/-- The sign of a negated class. -/
def caret (negated : Bool) : List Char := if negated then ['^'] else []

theorem readNamed?_eq_some_iff : readNamed? cs = some (set, negated, rest) ↔
    ∃ name, cs = '[' :: ':' :: (caret negated ++ name ++ ':' :: ']' :: rest) ∧ ':' ∉ name ∧
      named? (.ofList name) = some set := by
  constructor
  · intro named
    obtain ⟨body, rfl⟩ : ∃ body, cs = '[' :: ':' :: body := by
      unfold readNamed? at named
      split at named
      · exact ⟨_, rfl⟩
      · cases named
    by_cases signed : ∃ after, body = '^' :: after
    · obtain ⟨after, rfl⟩ := signed
      obtain ⟨rfl, name, rfl, plain, found⟩ := namedOf_eq_some_iff.1 named
      exact ⟨name, rfl, plain, found⟩
    · rw [readNamed?_of_ne (not_exists.1 signed)] at named
      obtain ⟨rfl, name, rfl, plain, found⟩ := namedOf_eq_some_iff.1 named
      exact ⟨name, rfl, plain, found⟩
  · rintro ⟨name, rfl, plain, found⟩
    cases negated with
    | true => exact namedOf_eq_some_iff.2 ⟨rfl, name, rfl, plain, found⟩
    | false =>
      have letters := isAlpha_of_named? found
      rw [String.toList_ofList] at letters
      rw [readNamed?_of_ne]
      · exact namedOf_eq_some_iff.2 ⟨rfl, name, rfl, plain, found⟩
      · intro after begun
        cases name with
        | nil => cases begun
        | cons c name =>
          obtain ⟨rfl, _⟩ := List.cons.inj begun
          exact absurd (letters '^' List.mem_cons_self) (by decide)

/-- What is no named class does not become one by what follows a bracket. -/
theorem readNamed?_append_of_none (none : readNamed? cs = none) (closed : ']' ∈ cs)
    (more : List Char) : readNamed? (cs ++ more) = Option.none := by
  refine Option.eq_none_iff_forall_ne_some.2 fun ⟨set, negated, rest⟩ named => ?_
  obtain ⟨name, same, plain, found⟩ := readNamed?_eq_some_iff.1 named
  have letters := isAlpha_of_named? found
  rw [String.toList_ofList] at letters
  have apart : ']' ∉ '[' :: ':' :: (caret negated ++ name ++ [':']) := by
    have letter : Char.isAlpha ']' ≠ true := by decide
    cases negated <;> simpa [caret] using fun member => letter (letters _ member)
  have split : cs ++ more = '[' :: ':' :: (caret negated ++ name ++ [':']) ++ ']' :: rest := by
    simpa using same
  rcases List.append_eq_append_iff.1 split with ⟨middle, front, _⟩ | ⟨middle, front, behind⟩
  · exact apart (front ▸ List.mem_append_left _ closed)
  · cases middle with
    | nil => exact apart (by simpa [front] using closed)
    | cons c middle =>
      obtain ⟨rfl, _⟩ := List.cons.inj behind
      have known := readNamed?_eq_some_iff.2 ⟨name, by simpa using front, plain, found⟩
      cases none.symm.trans known

theorem readNamed?_append_of_some (named : readNamed? cs = some (set, negated, rest)) :
    rest <:+ cs ∧ ∀ more, readNamed? (cs ++ more) = some (set, negated, rest ++ more) := by
  obtain ⟨name, rfl, plain, found⟩ := readNamed?_eq_some_iff.1 named
  refine ⟨⟨'[' :: ':' :: (caret negated ++ name ++ [':', ']']), by simp⟩, fun more => ?_⟩
  exact readNamed?_eq_some_iff.2 ⟨name, by simp, plain, found⟩

theorem op?_append {op : Op} (found : op? cs = some (op, rest)) :
    rest <:+ cs ∧ ∀ more, op? (cs ++ more) = some (op, rest ++ more) := by
  unfold op? at found
  split at found
  case h_4 => cases found
  all_goals
    cases found
    exact ⟨⟨[_, _], rfl⟩, fun more => rfl⟩

theorem op?_append_of_none {c d : Char} (none : op? (c :: d :: cs) = none) (more : List Char) :
    op? (c :: d :: cs ++ more) = Option.none := by
  unfold op? at none ⊢
  split at none
  case h_4 =>
    split <;> simp_all
  all_goals cases none

/-! ### Whole classes -/

/-- A reader of classes that succeeds has read up to a bracket, and does the same with more text and
    more fuel. -/
def Closes (reader : Nat → List Char → Except Error (CharSet × Nat × List Char)) (fuel : Nat) : Prop :=
  ∀ cs set height rest, reader fuel cs = .ok (set, height, rest) → ']' :: rest <:+ cs ∧
    ∀ more fuel', fuel ≤ fuel' → reader fuel' (cs ++ more) = .ok (set, height, rest ++ more)

theorem Closes.read
    (items : ∀ before operand, Closes (fun fuel => readItems flags fuel before operand) fuel) :
    Closes (read flags) (fuel + 1) := by
  intro cs set height rest read
  rw [Class.read] at read
  cases opened : readOpening flags cs with
  | mk negated found =>
    obtain ⟨operand, behind⟩ := found
    rw [opened] at read
    obtain ⟨⟨s, inner, left⟩, items_read, read⟩ := bind_eq_ok read
    obtain ⟨s', negates, read⟩ := bind_eq_ok read
    cases read
    obtain ⟨suffix, all⟩ := items _ _ _ _ _ _ items_read
    have remains := ne_nil_of_suffix suffix
    obtain ⟨within, append⟩ := readOpening_append opened remains
    refine ⟨suffix.trans within, fun more fuel' enough => ?_⟩
    obtain ⟨fuel', rfl⟩ := Nat.exists_eq_succ_of_ne_zero (by omega : fuel' ≠ 0)
    have again := all more fuel' (by omega)
    simp only [Class.read, append, bind, Except.bind, again, negates]

/-- What neither closes a class nor opens one within it is an operation or an item. -/
theorem readItems_of_ne {c : Char} {body : List Char} (begun : flags.skip cs = c :: body)
    (closing : c ≠ ']') (opening : c ≠ '[') :
    readItems flags (fuel + 1) before operand cs =
      (match op? (c :: body) with
      | some (op, rest) =>
        readItems flags fuel (some (op, combine flags before operand.close)) {} rest
      | none => do
        let (s, rest) ← readItem flags (c :: body)
        readItems flags fuel before (operand.add s 0) rest) := by
  rw [Class.readItems, begun]
  dsimp only
  split
  · next none => cases none
  · next same => exact absurd (List.cons.inj same).1 closing
  · next same => exact absurd (List.cons.inj same).1 opening
  · rfl

/-- A class within a class is a named one, or it is read up to its own bracket. -/
theorem readItems_opening {body : List Char} (nested : Closes (Class.read flags) fuel)
    (items : ∀ before operand, Closes (fun fuel => readItems flags fuel before operand) fuel)
    (begun : flags.skip cs = '[' :: body)
    (read : readItems flags (fuel + 1) before operand cs = .ok (set, height, rest)) :
    ']' :: rest <:+ cs ∧ ∀ more fuel', fuel + 1 ≤ fuel' →
      readItems flags fuel' before operand (cs ++ more) = .ok (set, height, rest ++ more) := by
  have skips := steady_skip flags cs
  rw [begun] at skips
  have skipped (more) : flags.skip (cs ++ more) = '[' :: (body ++ more) :=
    skips.ahead (List.cons_ne_nil _ _) more
  rw [Class.readItems, begun] at read
  cases named : readNamed? ('[' :: body) with
  | some found =>
    obtain ⟨s, negated, left⟩ := found
    simp only [named] at read
    obtain ⟨s', negates, read⟩ := bind_eq_ok read
    obtain ⟨suffix, all⟩ := items _ _ _ _ _ _ read
    obtain ⟨inside, append⟩ := readNamed?_append_of_some named
    refine ⟨(suffix.trans inside).trans skips.suffix, fun more fuel' enough => ?_⟩
    obtain ⟨fuel', rfl⟩ := Nat.exists_eq_succ_of_ne_zero (by omega : fuel' ≠ 0)
    have append := append more
    rw [List.cons_append] at append
    simp only [Class.readItems, skipped, append, bind, Except.bind, negates,
      all more fuel' (by omega)]
  | none =>
    simp only [named] at read
    obtain ⟨⟨s, inner, left⟩, nested_read, read⟩ := bind_eq_ok read
    obtain ⟨inside, all'⟩ := nested _ _ _ _ nested_read
    obtain ⟨suffix, all⟩ := items _ _ _ _ _ _ read
    refine ⟨((suffix.trans (List.suffix_cons _ _)).trans inside).trans
      ((List.suffix_cons _ _).trans skips.suffix), fun more fuel' enough => ?_⟩
    obtain ⟨fuel', rfl⟩ := Nat.exists_eq_succ_of_ne_zero (by omega : fuel' ≠ 0)
    have closed : ']' ∈ '[' :: body := .tail _ (inside.subset List.mem_cons_self)
    have append := readNamed?_append_of_none named closed more
    rw [List.cons_append] at append
    simp only [Class.readItems, skipped, append, bind, Except.bind,
      all' more fuel' (by omega), all more fuel' (by omega)]

/-- An operation or an item is read with what is behind it. -/
theorem readItems_other {c : Char} {body : List Char}
    (items : ∀ before operand, Closes (fun fuel => readItems flags fuel before operand) fuel)
    (begun : flags.skip cs = c :: body) (closing : c ≠ ']') (opening : c ≠ '[')
    (read : readItems flags (fuel + 1) before operand cs = .ok (set, height, rest)) :
    ']' :: rest <:+ cs ∧ ∀ more fuel', fuel + 1 ≤ fuel' →
      readItems flags fuel' before operand (cs ++ more) = .ok (set, height, rest ++ more) := by
  have skips := steady_skip flags cs
  rw [begun] at skips
  have skipped (more) : flags.skip (cs ++ more) = c :: (body ++ more) :=
    skips.ahead (List.cons_ne_nil _ _) more
  rw [readItems_of_ne begun closing opening] at read
  cases operation : op? (c :: body) with
  | some found =>
    obtain ⟨op, left⟩ := found
    simp only [operation] at read
    obtain ⟨suffix, all⟩ := items _ _ _ _ _ _ read
    obtain ⟨inside, append⟩ := op?_append operation
    refine ⟨(suffix.trans inside).trans skips.suffix, fun more fuel' enough => ?_⟩
    obtain ⟨fuel', rfl⟩ := Nat.exists_eq_succ_of_ne_zero (by omega : fuel' ≠ 0)
    have append := append more
    rw [List.cons_append] at append
    rw [Nat.succ_eq_add_one, readItems_of_ne (skipped more) closing opening, append]
    exact all more fuel' (by omega)
  | none =>
    simp only [operation] at read
    obtain ⟨⟨s, left⟩, item_read, read⟩ := bind_eq_ok read
    obtain ⟨suffix, all⟩ := items _ _ _ _ _ _ read
    obtain ⟨inside, append⟩ := readItem_append item_read (ne_nil_of_suffix suffix)
    refine ⟨(suffix.trans inside).trans ((List.suffix_cons c body).trans skips.suffix),
      fun more fuel' enough => ?_⟩
    obtain ⟨fuel', rfl⟩ := Nat.exists_eq_succ_of_ne_zero (by omega : fuel' ≠ 0)
    rw [Nat.succ_eq_add_one, readItems_of_ne (skipped more) closing opening]
    cases body with
    | nil => exact absurd (suffix.trans inside) (by simp)
    | cons d body =>
      have none := op?_append_of_none operation more
      have append := append more
      simp only [List.cons_append] at none append ⊢
      simp only [none, append, bind, Except.bind, all more fuel' (by omega)]

theorem Closes.readItems (nested : Closes (Class.read flags) fuel)
    (items : ∀ before operand, Closes (fun fuel => readItems flags fuel before operand) fuel)
    (before : Option (Op × CharSet × Nat)) (operand : Operand) :
    Closes (fun fuel => Class.readItems flags fuel before operand) (fuel + 1) := by
  intro cs set height rest read
  cases begun : flags.skip cs with
  | nil =>
    dsimp only at read
    rw [Class.readItems, begun] at read
    cases read
  | cons c body =>
    by_cases closing : c = ']'
    · subst closing
      have skips := steady_skip flags cs
      rw [begun] at skips
      dsimp only at read
      rw [Class.readItems, begun] at read
      cases read
      refine ⟨skips.suffix, fun more fuel' enough => ?_⟩
      obtain ⟨fuel', rfl⟩ := Nat.exists_eq_succ_of_ne_zero (by omega : fuel' ≠ 0)
      have skipped : flags.skip (cs ++ more) = ']' :: (rest ++ more) :=
        skips.ahead (List.cons_ne_nil _ _) more
      simp only [Class.readItems, skipped]
      rfl
    · by_cases opening : c = '['
      · subst opening
        exact readItems_opening nested items begun read
      · exact readItems_other items begun closing opening read

theorem closes (flags : Flags) (fuel : Nat) : Closes (Class.read flags) fuel ∧
    ∀ before operand, Closes (fun fuel => Class.readItems flags fuel before operand) fuel := by
  induction fuel with
  | zero =>
    refine ⟨fun cs set height rest read => ?_, fun before operand cs set height rest read => ?_⟩
    · rw [Class.read] at read
      cases read
    · dsimp only at read
      rw [Class.readItems] at read
      cases read
  | succ fuel ih => exact ⟨.read ih.2, .readItems ih.1 ih.2⟩

/-- A class is read up to its closing bracket, whatever follows it. -/
theorem steady_read {cs : List Char}
    (read : Class.read flags (2 * cs.length + 2) cs = .ok (set, height, rest)) :
    Steady (fun cs rest => Class.read flags (2 * cs.length + 2) cs = .ok (set, height, rest))
      cs rest := by
  obtain ⟨suffix, all⟩ := (closes flags _).1 _ _ _ _ read
  refine steady_of_forall ((List.suffix_cons ']' rest).trans suffix) fun more => all more _ ?_
  rw [List.length_append]
  omega

end LogSift.Regex.Class
