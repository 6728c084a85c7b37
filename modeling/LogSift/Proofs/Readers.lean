import LogSift.Proofs.Classes
import LogSift.Regex

/-!
Reading a regular expression within a larger text. A reader goes the same way with further groups
around it, and with more text behind it (`steady_step`, `steady_whole`).
-/

namespace LogSift.Regex

open Unicode (CharSet isBlank)
open Flags (steady_skip)

namespace Reader

variable {r r' : Reader} {cs rest : List Char} {flags : Flags} {min : Nat} {max : Option Nat}
  {greedy : Bool}

/-! ### Counts -/

theorem readDigits_eq (flags : Flags) (fuel : Nat) (cs : List Char) :
    readDigits flags fuel cs = flags.readWhile Char.isDigit fuel cs := by
  induction fuel generalizing cs with
  | zero => rfl
  | succ fuel ih =>
    cases cs with
    | nil => rfl
    | cons c rest => rw [readDigits, Flags.readWhile, ih]

theorem readDigits_append (remains : (readDigits flags (cs.length + 1) cs).2 ≠ [])
    (more : List Char) : readDigits flags ((cs ++ more).length + 1) (cs ++ more) =
      ((readDigits flags (cs.length + 1) cs).1, (readDigits flags (cs.length + 1) cs).2 ++ more) := by
  simp only [readDigits_eq] at remains ⊢
  rw [Flags.readWhile_append remains (Nat.le_succ _) (Nat.le_succ _)]

theorem dropWhile_append {p : Char → Bool} (remains : cs.dropWhile p ≠ []) (more : List Char) :
    (cs ++ more).dropWhile p = cs.dropWhile p ++ more := by
  rw [List.dropWhile_append, if_neg]
  simpa using remains

theorem skipBlank_append (remains : skipBlank flags cs ≠ []) :
    skipBlank flags cs <:+ cs ∧ ∀ more, skipBlank flags (cs ++ more) = skipBlank flags cs ++ more := by
  cases cs with
  | nil => exact absurd rfl remains
  | cons c cs =>
    simp only [skipBlank, List.cons_append] at remains ⊢
    split at remains
    · next blank =>
      have skips := steady_skip flags (cs.dropWhile isBlank)
      have between : cs.dropWhile isBlank ≠ [] := fun none =>
        remains (List.suffix_nil.1 (none ▸ skips.suffix))
      simp only [blank, if_true]
      refine ⟨(skips.suffix.trans (List.dropWhile_suffix _)).trans (List.suffix_cons c cs),
        fun more => ?_⟩
      rw [dropWhile_append between, skips.ahead remains]
    · next visible =>
      rw [if_neg visible]
      exact ⟨List.suffix_refl _, fun more => if_neg visible⟩

/-- A count that is followed by something is read the same when more follows. -/
theorem readCount_append {count : Option Nat} (read : readCount flags cs = (count, rest))
    (remains : rest ≠ []) :
    rest <:+ cs ∧ ∀ more, readCount flags (cs ++ more) = (count, rest ++ more) := by
  have digits : (readDigits flags _ (cs.dropWhile isBlank)).2 <:+ _ :=
    readDigits_eq flags ((cs.dropWhile isBlank).length + 1) _ ▸ Flags.readWhile_suffix ..
  have append (remains : (readDigits flags _ (cs.dropWhile isBlank)).2 ≠ []) (more : List Char) :=
    readDigits_append remains more
  simp only [readCount] at read ⊢
  generalize readDigits flags ((cs.dropWhile isBlank).length + 1) (cs.dropWhile isBlank) = found at *
  obtain ⟨spelled, behind⟩ := found
  cases read
  obtain ⟨suffix, append'⟩ := skipBlank_append remains
  have between : behind ≠ [] := by
    rintro rfl
    exact remains rfl
  have begins : cs.dropWhile isBlank ≠ [] := fun none =>
    between (List.suffix_nil.1 (none ▸ digits))
  refine ⟨(suffix.trans digits).trans (List.dropWhile_suffix _), fun more => ?_⟩
  rw [dropWhile_append begins, append between more]
  simp only [append']

theorem readCounts_append {min : Nat} {max : Option Nat}
    (read : readCounts flags cs = .ok (min, max, rest)) :
    rest <:+ cs ∧ ∀ more, readCounts flags (cs ++ more) = .ok (min, max, rest ++ more) := by
  have skips := steady_skip flags cs
  cases first : readCount flags (flags.skip cs) with
  | mk count behind =>
    have first_append := readCount_append first
    unfold readCounts at read
    rw [first] at read
    split at read
    · next least after same =>
      cases same
      cases read
      obtain ⟨suffix, append⟩ := first_append (List.cons_ne_nil _ _)
      have begins : flags.skip cs ≠ [] := ne_nil_of_suffix suffix
      refine ⟨((List.suffix_cons _ _).trans suffix).trans skips.suffix, fun more => ?_⟩
      simp only [readCounts, skips.ahead begins, append, List.cons_append]
    · next least after same =>
      cases same
      obtain ⟨suffix, append⟩ := first_append (List.cons_ne_nil _ _)
      have begins : flags.skip cs ≠ [] := ne_nil_of_suffix suffix
      have within := ((List.suffix_cons _ _).trans suffix).trans skips.suffix
      have skips' := steady_skip flags after
      split at read
      · next behind closes =>
        cases read
        rw [closes] at skips'
        refine ⟨((List.suffix_cons _ _).trans skips'.suffix).trans within, fun more => ?_⟩
        have closes' : flags.skip (after ++ more) = '\x7d' :: (rest ++ more) :=
          skips'.ahead (List.cons_ne_nil _ _) more
        simp only [readCounts, skips.ahead begins, append, List.cons_append, closes']
      · next opens =>
        split at read
        · next most left second =>
          split at read
          · cases read
          · next ordered =>
            cases read
            obtain ⟨suffix', append'⟩ := readCount_append second (List.cons_ne_nil _ _)
            have between : flags.skip after ≠ [] := ne_nil_of_suffix suffix'
            refine ⟨(((List.suffix_cons _ _).trans suffix').trans skips'.suffix).trans within,
              fun more => ?_⟩
            have opens' (rest) : flags.skip (after ++ more) ≠ '\x7d' :: rest := by
              rw [skips'.ahead between more]
              intro closes
              cases begun : flags.skip after with
              | nil => exact between begun
              | cons c body =>
                rw [begun] at closes
                exact opens body (begun.trans (congrArg (· :: body) (List.cons.inj closes).1))
            have append' := append' more
            rw [← skips'.ahead between more] at append'
            simp only [readCounts, skips.ahead begins, append, List.cons_append, append',
              if_neg ordered]
        · cases read
    · cases read

theorem steady_readCounts {min : Nat} {max : Option Nat}
    (read : readCounts flags cs = .ok (min, max, rest)) :
    Steady (fun cs rest => readCounts flags cs = .ok (min, max, rest)) cs rest := by
  obtain ⟨suffix, append⟩ := readCounts_append read
  exact steady_of_forall suffix append

/-! ### One step -/

/-- A reader amid a larger text: with another rest, and with further groups around its own. -/
def amid (r : Reader) (rest : List Char) (bottom : List OpenGroup) : Reader :=
  { r with rest, outer := r.outer ++ bottom }

/-- From one reader to another, amid any text, the way is the same. -/
def Leads (f : Reader → List Char → Except Error Reader) (r r' : Reader) (cs rest : List Char) :
    Prop :=
  ∀ any bottom, f (r.amid any bottom) cs = .ok (r'.amid rest bottom)

theorem leads_repeatLast (read : r.repeatLast min max greedy cs = .ok r') : r'.rest = cs ∧
    ∀ rest, Leads (fun r rest => r.repeatLast min max greedy rest) r r' rest rest := by
  unfold repeatLast at read
  split at read
  · cases read
  · next item items held =>
    split at read
    · cases read
    · next solid =>
      cases read
      refine ⟨rfl, fun rest any bottom => ?_⟩
      simp only [repeatLast, amid, held, if_neg solid]
      rfl

theorem steady_readRepeat (read : r.readRepeat min max cs = .ok r') :
    Steady (Leads (fun r cs => r.readRepeat min max cs) r r') cs r'.rest := by
  unfold readRepeat at read
  split at read
  · next after =>
    obtain ⟨rfl, leads⟩ := leads_repeatLast read
    exact steady_of_forall (List.suffix_cons '?' _) fun more => leads _
  · next eager =>
    obtain ⟨rfl, leads⟩ := leads_repeatLast read
    refine (steady_apart (by decide) eager).mono ?_
    rintro more left ⟨rfl, plain⟩ any bottom
    simp only [readRepeat]
    exact leads _ any bottom

theorem steady_readCounted (read : r.readCounted cs = .ok r') :
    Steady (Leads readCounted r r') cs r'.rest := by
  unfold readCounted at read
  split at read
  · cases read
  · next item items held =>
    obtain ⟨⟨min, max, after⟩, counts, read⟩ := bind_eq_ok read
    refine (((steady_readCounts counts).trans (steady_skip r.flags after)).trans
      (steady_readRepeat read)).mono ?_
    rintro more left ⟨behind, ⟨behind', counts', skipped⟩, leads⟩ any bottom
    have again := leads any bottom
    simp only [readCounted, amid, held, bind, Except.bind, counts', skipped]
    exact again

/-! ### Opening a group -/

/-- The reader behind the head of a group with a name. -/
def named (r : Reader) (name rest : List Char) : Reader :=
  { r.enter (some (r.groups + 1, some (.ofList name))) r.flags rest with
    groups := r.groups + 1
    names := .ofList name :: r.names }

/-- The name of a group stands before the first closing angle bracket. -/
theorem enterNamed_eq_ok_iff : r.enterNamed cs = .ok r' ↔ ∃ name rest, cs = name ++ '>' :: rest ∧
    '>' ∉ name ∧ isName name = true ∧ r.names.contains (.ofList name) = false ∧
    r' = r.named name rest := by
  constructor
  · intro read
    unfold enterNamed at read
    dsimp only at read
    split at read
    · cases read
    · next bracket rest closes =>
      obtain ⟨split, apart⟩ := eq_of_dropWhile closes
      by_cases empty : (cs.takeWhile (· != '>')).isEmpty = true
      · rw [if_pos empty] at read
        cases read
      by_cases proper : isName (cs.takeWhile (· != '>')) = true
      · cases used : r.names.contains (.ofList (cs.takeWhile (· != '>')))
        · simp only [empty, proper, used] at read
          cases read
          exact ⟨_, rest, split, apart, proper, used, rfl⟩
        · simp only [empty, proper, used] at read
          cases read
      · rw [if_neg empty, if_pos (by simpa using proper)] at read
        cases read
  · rintro ⟨name, rest, rfl, apart, proper, fresh, rfl⟩
    obtain ⟨before, behind⟩ := span_append apart rest
    have some : name.isEmpty = false := by
      cases name with
      | nil => cases proper
      | cons c name => rfl
    simp only [enterNamed, before, behind, some, proper, fresh]
    rfl

theorem openGroup_of_name {name : List Char}
    (begun : r.flags.skip cs = '?' :: 'P' :: '<' :: name) : r.openGroup cs = r.enterNamed name := by
  simp only [openGroup, begun]

theorem openGroup_of_angle {c : Char} {name : List Char}
    (begun : r.flags.skip cs = '?' :: '<' :: c :: name) (ahead : c ≠ '=') (apart : c ≠ '!') :
    r.openGroup cs = r.enterNamed (c :: name) := by
  unfold openGroup
  split <;> simp_all
  · exact absurd begun.1.symm ahead
  · exact absurd begun.1.symm apart

/-- The signs that groups with names begin with. -/
def signs : List String := ["?P<", "?<"]

theorem mem_signs {sign : String} : sign ∈ signs ↔ sign = "?P<" ∨ sign = "?<" := by
  simp [signs]

/-- The head of a group with a name, and what follows it. -/
structure Named (r r' : Reader) (cs : List Char) (sign : String) (name rest : List Char) : Prop where
  known : sign ∈ signs
  begun : r.flags.skip cs = sign.toList ++ (name ++ '>' :: rest)
  apart : '>' ∉ name
  proper : isName name = true
  fresh : r.names.contains (.ofList name) = false
  opened : r' = r.named name rest

/-- A name does not begin like the signs of what is around a place. -/
theorem exists_cons_of_isName {name : List Char} (proper : isName name = true) :
    ∃ c rest, name = c :: rest ∧ c ≠ '=' ∧ c ≠ '!' := by
  cases name with
  | nil => cases proper
  | cons c rest =>
    have start : isNameStart c = true := (Bool.and_eq_true_iff.1 proper).1
    refine ⟨c, rest, rfl, ?_, ?_⟩
    · rintro rfl
      exact absurd start (by decide)
    · rintro rfl
      exact absurd start (by decide)

theorem Named.read {sign : String} {name : List Char} (head : Named r r' cs sign name rest) :
    r.openGroup cs = .ok r' := by
  obtain ⟨known, begun, apart, proper, fresh, opened⟩ := head
  have entered := enterNamed_eq_ok_iff.2 ⟨name, rest, rfl, apart, proper, fresh, opened⟩
  rcases mem_signs.1 known with rfl | rfl
  · exact (openGroup_of_name begun).trans entered
  · obtain ⟨c, later, rfl, ahead, around⟩ := exists_cons_of_isName proper
    exact (openGroup_of_angle begun ahead around).trans entered

/-- What is read where flags stand: a group with these flags, or the flags alone. -/
def withFlags (r : Reader) (flags : Flags) (any : Bool) : List Char → Except Error Reader
  | ':' :: rest => .ok (r.enter none flags rest)
  | _ :: rest =>
    if any then .ok { r.push ⟨.empty, 0, true⟩ rest with flags } else .error .nothingToRepeat
  | [] => .error .unclosedGroup

theorem openGroup_of_flags {c : Char} {set : List Char}
    (begun : r.flags.skip cs = '?' :: c :: set) (plain : c ∉ ['=', '!', 'P', '<']) :
    r.openGroup cs = (do
      let (flags, any, rest) ← r.flags.read [] (c :: set)
      r.withFlags flags any rest) := by
  simp only [List.mem_cons, List.not_mem_nil, or_false, not_or] at plain
  obtain ⟨ahead, apart, letter, angle⟩ := plain
  unfold openGroup
  split <;> simp_all
  · exact absurd begun.1.symm ahead
  · exact absurd begun.1.symm apart
  · exact absurd begun.1.symm angle
  · exact absurd begun.1.symm angle
  · exact absurd begun.1.symm letter
  · exact absurd begun.1.symm angle
  · rfl

theorem openGroup_of_plain (begun : ∀ rest, r.flags.skip cs ≠ '?' :: rest) :
    r.openGroup cs = .ok { r.enter (some (r.groups + 1, none)) r.flags (r.flags.skip cs) with
      groups := r.groups + 1 } := by
  unfold openGroup
  split <;> simp_all

theorem leads_withFlags {found : Flags} {any : Bool} (read : r.withFlags found any cs = .ok r') :
    ∃ c, cs = c :: r'.rest ∧
      ∀ rest, Leads (fun r cs => r.withFlags found any cs) r r' (c :: rest) rest := by
  unfold withFlags at read
  split at read
  · cases read
    exact ⟨':', rfl, fun rest elsewhere bottom => rfl⟩
  · next c rest other =>
    split at read
    · next some =>
      cases read
      refine ⟨c, rfl, fun rest elsewhere bottom => ?_⟩
      dsimp only
      unfold withFlags
      split
      · next same => exact absurd (List.cons.inj same).1 fun colon => other colon
      · next same =>
        cases same
        rw [if_pos some]
        rfl
      · next none => cases none
    · cases read
  · cases read

/-- The ways to open a group: with a name, with flags or a colon, or with a number only. -/
theorem openGroup_cases (read : r.openGroup cs = .ok r') :
    (∃ sign name rest, Named r r' cs sign name rest) ∨
    (∃ c set found any left, r.flags.skip cs = '?' :: c :: set ∧ c ∉ ['=', '!', 'P', '<'] ∧
      r.flags.read [] (c :: set) = .ok (found, any, left) ∧ r.withFlags found any left = .ok r') ∨
    (∀ rest, r.flags.skip cs ≠ '?' :: rest) ∧
      r' = { r.enter (some (r.groups + 1, none)) r.flags (r.flags.skip cs) with
        groups := r.groups + 1 } := by
  by_cases special : ∃ after, r.flags.skip cs = '?' :: after
  · obtain ⟨after, begun⟩ := special
    cases after with
    | nil => simp [openGroup, begun, Flags.read, bind, Except.bind] at read
    | cons c set =>
      by_cases plain : c ∈ ['=', '!', 'P', '<']
      · refine .inl ?_
        simp only [List.mem_cons, List.not_mem_nil, or_false] at plain
        rcases plain with rfl | rfl | rfl | rfl
        · simp [openGroup, begun] at read
        · simp [openGroup, begun] at read
        · cases set with
          | nil => simp [openGroup, begun, Flags.read, Flags.set?, bind, Except.bind] at read
          | cons d name =>
            by_cases angle : d = '<'
            · subst angle
              rw [openGroup_of_name begun] at read
              obtain ⟨name, rest, rfl, apart, proper, fresh, rfl⟩ := enterNamed_eq_ok_iff.1 read
              exact ⟨"?P<", name, rest, by decide, begun, apart, proper, fresh, rfl⟩
            · simp [openGroup, begun, angle, Flags.read, Flags.set?, bind, Except.bind] at read
        · cases set with
          | nil => simp [openGroup, begun, enterNamed] at read
          | cons d name =>
            by_cases ahead : d = '='
            · simp [openGroup, begun, ahead] at read
            by_cases around : d = '!'
            · simp [openGroup, begun, around] at read
            rw [openGroup_of_angle begun ahead around] at read
            obtain ⟨name, rest, spelled, apart, proper, fresh, rfl⟩ := enterNamed_eq_ok_iff.1 read
            exact ⟨"?<", name, rest, by decide, spelled ▸ begun, apart, proper, fresh, rfl⟩
      · rw [openGroup_of_flags begun plain] at read
        obtain ⟨⟨found, any, left⟩, flags_read, read⟩ := bind_eq_ok read
        exact .inr (.inl ⟨c, set, found, any, left, begun, plain, flags_read, read⟩)
  · have begun := not_exists.1 special
    rw [openGroup_of_plain begun] at read
    exact .inr (.inr ⟨begun, (Except.ok.inj read).symm⟩)

theorem steady_openGroup (read : r.openGroup cs = .ok r') :
    Steady (Leads openGroup r r') cs r'.rest := by
  have skips := steady_skip r.flags cs
  rcases openGroup_cases read with ⟨sign, name, rest, head⟩ |
    ⟨c, set, found, any, left, begun, plain, flags_read, read⟩ | ⟨begun, rfl⟩
  · have suffix := skips.suffix
    have skipped := skips.ahead (by rw [head.begun]; simp)
    rw [head.begun] at suffix skipped
    obtain rfl := head.opened
    refine steady_of_forall ?_ fun more any bottom => ?_
    · exact (((List.suffix_cons '>' rest).trans (List.suffix_append _ _)).trans
        (List.suffix_append _ _)).trans suffix
    · have again : Named (r.amid any bottom) ((r.named name rest).amid (rest ++ more) bottom)
          (cs ++ more) sign name (rest ++ more) :=
        ⟨head.known, (skipped more).trans (by simp), head.apart, head.proper, head.fresh, rfl⟩
      exact again.read
  · have skipped := skips.ahead (by rw [begun]; exact List.cons_ne_nil _ _)
    have suffix := skips.suffix
    rw [begun] at skipped suffix
    obtain ⟨_, within, append⟩ := Flags.read_append flags_read
    obtain ⟨d, rfl, leads⟩ := leads_withFlags read
    refine steady_of_forall ?_ fun more elsewhere bottom => ?_
    · exact (((List.suffix_cons _ _).trans within).trans (List.suffix_cons _ _)).trans suffix
    · have begun' : (r.amid elsewhere bottom).flags.skip (cs ++ more) = '?' :: c :: (set ++ more) :=
        skipped more
      have append' : (r.amid elsewhere bottom).flags.read [] (c :: (set ++ more)) =
          .ok (found, any, d :: (r'.rest ++ more)) := append more
      rw [openGroup_of_flags begun' plain, append']
      exact leads _ elsewhere bottom
  · refine (skips.trans (steady_apart (by decide) begun)).mono ?_
    rintro more left ⟨behind, skipped, rfl, plain⟩ any bottom
    rw [← skipped] at plain ⊢
    exact openGroup_of_plain plain

theorem leads_closeGroup (read : r.closeGroup cs = .ok r') : r'.rest = cs ∧
    ∀ rest, Leads closeGroup r r' rest rest := by
  unfold closeGroup at read
  split at read
  · cases read
  · next capture flags level outer held =>
    cases read
    refine ⟨rfl, fun rest any bottom => ?_⟩
    simp only [closeGroup, amid, held, List.cons_append]

theorem leads_push {item : Except Error Item}
    (read : (item.map fun item => r.push item cs) = .ok r') : r'.rest = cs ∧
      ∀ rest, Leads (fun r rest => item.map fun item => r.push item rest) r r' rest rest := by
  cases item with
  | error e => cases read
  | ok item =>
    cases read
    exact ⟨rfl, fun rest any bottom => rfl⟩

/-- A step goes the same way amid any text, up to what is left. -/
theorem steady_step {c : Char} (read : r.step c cs = .ok r') :
    Steady (Leads (fun r cs => r.step c cs) r r') cs r'.rest := by
  unfold step at read
  split at read
  · exact steady_openGroup read
  · obtain ⟨rfl, leads⟩ := leads_closeGroup read
    exact steady_of_forall (List.suffix_refl _) fun more => leads _
  · cases read
    exact steady_of_forall (List.suffix_refl _) fun more any bottom => rfl
  · obtain ⟨⟨set, height, after⟩, class_read, read⟩ := bind_eq_ok read
    cases read
    refine (Class.steady_read class_read).mono fun more left again any bottom => ?_
    simp only [step, amid, again, bind, Except.bind]
    rfl
  · exact steady_readRepeat read
  · exact steady_readRepeat read
  · exact steady_readRepeat read
  · exact steady_readCounted read
  · obtain ⟨⟨primitive, after⟩, escape, read⟩ := bind_eq_ok read
    obtain ⟨rfl, leads⟩ := leads_push read
    refine (Escape.steady_read escape).mono fun more left again any bottom => ?_
    simp only [step, amid, again, bind, Except.bind]
    exact leads left any bottom
  · obtain ⟨rfl, leads⟩ := leads_push read
    exact steady_of_forall (List.suffix_refl _) fun more => leads _
  · cases read
    exact steady_of_forall (List.suffix_refl _) fun more any bottom => rfl
  · cases read
    exact steady_of_forall (List.suffix_refl _) fun more any bottom => rfl
  · obtain ⟨rfl, leads⟩ := leads_push read
    refine steady_of_forall (List.suffix_refl _) fun more any bottom => ?_
    simp only [step]
    exact leads _ any bottom

/-! ### Whole texts -/

theorem step_suffix {c : Char} (read : r.step c cs = .ok r') : r'.rest <:+ cs :=
  (steady_step read).suffix

/-- More fuel than there are characters makes no difference. -/
theorem run_eq_run {fuel fuel' : Nat} (enough : r.rest.length < fuel)
    (enough' : r.rest.length < fuel') : run fuel r = run fuel' r := by
  induction fuel generalizing r fuel' with
  | zero => cases enough
  | succ fuel ih =>
    obtain ⟨fuel', rfl⟩ := Nat.exists_eq_succ_of_ne_zero (by omega : fuel' ≠ 0)
    rw [Nat.succ_eq_add_one, run, run]
    have shorter := Flags.length_skip_le r.flags r.rest
    split
    · rfl
    · next c rest begun =>
      rw [begun, List.length_cons] at shorter
      cases stepped : r.step c rest with
      | error e => rfl
      | ok r' =>
        have less := (step_suffix stepped).length_le
        exact ih (by omega) (by omega)

/-- Reads to the end of the text. -/
def whole (r : Reader) : Except Error Reader := run (r.rest.length + 1) r

theorem whole_of_skip_eq_nil (none : r.flags.skip r.rest = []) :
    r.whole = .ok { r with rest := [] } := by
  rw [whole, run, none]

theorem whole_of_skip_eq_cons {c : Char} (begun : r.flags.skip r.rest = c :: rest) :
    r.whole = r.step c rest >>= whole := by
  have shorter := Flags.length_skip_le r.flags r.rest
  rw [begun, List.length_cons] at shorter
  rw [whole, run, begun]
  dsimp only
  cases stepped : r.step c rest with
  | error e => rfl
  | ok r' =>
    have less := (step_suffix stepped).length_le
    have enough : r'.rest.length < r.rest.length := by omega
    exact run_eq_run enough (Nat.lt_succ_self _)

theorem rest_of_whole {final : Reader} (read : r.whole = .ok final) : final.rest = [] := by
  generalize measure : r.rest.length = n
  induction n using Nat.strongRecOn generalizing r with
  | ind n ih =>
    cases begun : r.flags.skip r.rest with
    | nil =>
      rw [whole_of_skip_eq_nil begun] at read
      cases read
      rfl
    | cons c rest =>
      rw [whole_of_skip_eq_cons begun] at read
      obtain ⟨r', stepped, read⟩ := bind_eq_ok read
      have shorter := Flags.length_skip_le r.flags r.rest
      rw [begun, List.length_cons] at shorter
      have less := (step_suffix stepped).length_le
      exact ih r'.rest.length (by omega) read rfl

/-- Reading on from one reader comes to the same as reading on from another, amid any groups. -/
def Onward (r r' : Reader) (cs rest : List Char) : Prop :=
  ∀ bottom, (r.amid cs bottom).whole = (r'.amid rest bottom).whole

/-- What is left out before an item may be left out at once. -/
theorem whole_skip (r : Reader) (cs : List Char) (bottom : List OpenGroup) :
    (r.amid (r.flags.skip cs) bottom).whole = (r.amid cs bottom).whole := by
  have skipped : (r.amid cs bottom).flags.skip (r.amid cs bottom).rest = r.flags.skip cs := rfl
  have again : (r.amid (r.flags.skip cs) bottom).flags.skip (r.amid (r.flags.skip cs) bottom).rest =
    r.flags.skip cs := Flags.skip_skip r.flags cs
  cases begun : r.flags.skip cs with
  | nil =>
    rw [begun] at skipped again
    rw [whole_of_skip_eq_nil skipped, whole_of_skip_eq_nil again]
    rfl
  | cons c rest =>
    rw [begun] at skipped again
    rw [whole_of_skip_eq_cons skipped, whole_of_skip_eq_cons again]
    rfl

theorem steady_whole {final : Reader} (read : r.whole = .ok final) :
    Steady (Onward r final) r.rest [] := by
  -- The first step goes the same way amid any text, and by induction so does what follows it.
  generalize measure : r.rest.length = n
  induction n using Nat.strongRecOn generalizing r with
  | ind n ih =>
    have skips := steady_skip r.flags r.rest
    have onward : ∀ more left, r.flags.skip (r.rest ++ more) = left →
        Onward r r (r.rest ++ more) left := by
      rintro more left rfl bottom
      exact (whole_skip r _ bottom).symm
    cases begun : r.flags.skip r.rest with
    | nil =>
      rw [whole_of_skip_eq_nil begun] at read
      cases read
      rw [begun] at skips
      exact skips.mono onward
    | cons c rest =>
      rw [whole_of_skip_eq_cons begun] at read
      obtain ⟨r', stepped, read⟩ := bind_eq_ok read
      rw [begun] at skips
      have shorter := skips.suffix.length_le
      have less := (step_suffix stepped).length_le
      rw [List.length_cons] at shorter
      have later := ih r'.rest.length (by omega) read rfl
      refine (skips.trans ((steady_step stepped).cons c |>.trans later)).mono ?_
      rintro more left ⟨behind, skipped, further, leads, goes⟩ bottom
      have begun' : (r.amid (r.rest ++ more) bottom).flags.skip (r.amid (r.rest ++ more) bottom).rest =
        c :: (rest ++ behind) := skipped
      have leads := leads (r.rest ++ more) bottom
      dsimp only [List.cons_append, List.tail_cons] at leads
      rw [whole_of_skip_eq_cons begun', leads]
      exact goes bottom

/-! ### Results -/

theorem read_eq (cs : List Char) : read cs = whole { rest := cs } >>= finish := rfl

/-- What is read is within the limit of nesting, and no group is left open. -/
theorem finish_eq_ok_iff {expr : Expr} : r.finish = .ok expr ↔
    r.outer = [] ∧ r.level.close.height ≤ maxHeight ∧ r.level.close.expr = expr := by
  unfold finish
  by_cases closed : r.outer = []
  · by_cases deep : maxHeight < r.level.close.height
    · simp [closed, deep, Nat.not_le.2 deep]
    · simp [closed, deep, Nat.not_lt.1 deep]
  · simp [closed]

end Reader

/-- What is read is within the limits, and the regular expression is that of what has been read. -/
theorem ofString?_eq_ok_iff [Engine] {source : String} {limit : Nat} {regex : Regex} :
    ofString? source limit = .ok regex ↔ ∃ expr, Reader.read source.toList = .ok expr ∧
      Engine.fits expr limit = true ∧ regex = ⟨source, groupNames expr.groups, expr.program⟩ := by
  unfold ofString?
  cases Reader.read source.toList with
  | error e => simp [bind, Except.bind]
  | ok expr =>
    cases fits : Engine.fits expr limit with
    | false => simp [bind, Except.bind, fits]
    | true => simp [bind, Except.bind, fits]; exact eq_comm

end LogSift.Regex
