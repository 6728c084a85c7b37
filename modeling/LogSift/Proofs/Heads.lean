import LogSift.Proofs.Written

/-!
Names that texts give to groups. A head is what a group with a name goes on with behind its parenthesis:
the sign, and the name in brackets. The heads of a text are found by reading it, where the reader comes to
the parenthesis of a group (`headsOf`): what stands behind an escape, in a class or in a comment is none.
-/

namespace LogSift

namespace Regex

open Reader (signs mem_signs isName isNameChar)

/-- What follows the sign of a group with a name, if a text begins with one. -/
def afterSign? : List Char → Option (List Char)
  | '?' :: 'P' :: '<' :: rest => some rest
  | '?' :: '<' :: rest => some rest
  | _ => none

/-- The name that a text gives a group, if the text begins with a sign and a proper name. -/
def headName? (cs : List Char) : Option String :=
  match afterSign? cs with
  | none => none
  | some rest =>
    match rest.dropWhile (· != '>') with
    | [] => none
    | _ :: _ =>
      let name := rest.takeWhile (· != '>')
      if isName name then some (.ofList name) else none

/-- The head of a group: its name, and the text from its sign on. -/
structure Head where
  name : String
  text : List Char
  deriving DecidableEq, Repr

/-- The head of the group that a reader opens, if it stands behind the parenthesis. -/
def Reader.head? (r : Reader) (cs : List Char) : Option Head :=
  (headName? (r.flags.skip cs)).map fun name => ⟨name, r.flags.skip cs⟩

/-- The head that a reader comes to with a character, if it comes to one. -/
def Reader.here (r : Reader) (c : Char) (rest : List Char) : List Head :=
  if c = '(' then (r.head? rest).toList else []

/-- The heads that a reader comes to, up to where it fails. One that is refused, since its name has been
    given before, is the last of them. -/
def Reader.heads (fuel : Nat) (r : Reader) : List Head :=
  match fuel with
  | 0 => []
  | fuel + 1 =>
    match r.flags.skip r.rest with
    | [] => []
    | c :: rest =>
      match r.step c rest with
      | .error _ => r.here c rest
      | .ok next => r.here c rest ++ heads fuel next

/-- The heads of a text. -/
def headsOf (cs : List Char) : List Head := Reader.heads (cs.length + 1) { rest := cs }

/-- The names that a text gives to groups, in order. -/
def declared (cs : List Char) : List String := (headsOf cs).map (·.name)

variable {cs rest : List Char} {c : Char} {name : String} {r r' : Reader} {head : Head}

/-! ### Heads -/

theorem afterSign?_eq_some_iff :
    afterSign? cs = some rest ↔ ∃ sign ∈ signs, cs = sign.toList ++ rest := by
  constructor
  · intro found
    unfold afterSign? at found
    split at found
    · cases found
      exact ⟨"?P<", by decide, rfl⟩
    · cases found
      exact ⟨"?<", by decide, rfl⟩
    · cases found
  · rintro ⟨sign, known, rfl⟩
    rcases mem_signs.1 known with rfl | rfl <;> rfl

theorem isNameChar_of_mem {cs : List Char} (proper : isName cs = true) (member : c ∈ cs) :
    isNameChar c = true := by
  cases cs with
  | nil => cases member
  | cons d cs =>
    rw [isName, Bool.and_eq_true, List.all_eq_true] at proper
    rcases List.mem_cons.1 member with rfl | later
    · have start := proper.1
      rw [Reader.isNameStart, Bool.or_eq_true] at start
      rcases start with line | letter
      · simp [isNameChar, line]
      · simp [isNameChar, Unicode.isAlphanumeric, letter]
    · exact proper.2 c later

theorem bracket_not_mem_of_isName {cs : List Char} (proper : isName cs = true) : '>' ∉ cs :=
  fun member => absurd (isNameChar_of_mem proper member) (by decide)

theorem headName?_eq_some_iff : headName? cs = some name ↔
    isName name.toList = true ∧ ∃ sign ∈ signs, ∃ rest,
      cs = sign.toList ++ (name.toList ++ '>' :: rest) := by
  constructor
  · intro found
    unfold headName? at found
    split at found
    · cases found
    · next behind begun =>
      obtain ⟨sign, known, rfl⟩ := afterSign?_eq_some_iff.1 begun
      split at found
      · cases found
      · next bracket rest closes =>
        dsimp only at found
        split at found
        · next proper =>
          cases found
          have split := (eq_of_dropWhile closes).1
          exact ⟨by simpa using proper, sign, known, rest, by simpa using split⟩
        · cases found
  · rintro ⟨proper, sign, known, rest, rfl⟩
    have begun : afterSign? (sign.toList ++ (name.toList ++ '>' :: rest)) =
        some (name.toList ++ '>' :: rest) := afterSign?_eq_some_iff.2 ⟨sign, known, rfl⟩
    obtain ⟨before, behind⟩ := span_append (bracket_not_mem_of_isName proper) rest
    simp [headName?, begun, before, behind, proper]

/-! ### Readers -/

namespace Reader

/-- A reader comes to the end of its text, or it fails, or it goes on with less to read. -/
theorem reading_induction {motive : Reader → Prop}
    (ends : ∀ r : Reader, r.flags.skip r.rest = [] → motive r)
    (fails : ∀ (r : Reader) c rest e, r.flags.skip r.rest = c :: rest → r.step c rest = .error e →
      motive r)
    (goes : ∀ (r : Reader) c rest r', r.flags.skip r.rest = c :: rest → r.step c rest = .ok r' →
      motive r' → motive r) (r : Reader) : motive r := by
  generalize measure : r.rest.length = n
  induction n using Nat.strongRecOn generalizing r with
  | ind n ih =>
    cases begun : r.flags.skip r.rest with
    | nil => exact ends r begun
    | cons c rest =>
      cases stepped : r.step c rest with
      | error e => exact fails r c rest e begun stepped
      | ok r' =>
        have shorter := Flags.length_skip_le r.flags r.rest
        rw [begun, List.length_cons] at shorter
        have less := (step_suffix stepped).length_le
        exact goes r c rest r' begun stepped (ih r'.rest.length (by omega) r' rfl)

theorem head?_eq_some_iff : r.head? cs = some head ↔
    headName? (r.flags.skip cs) = some head.name ∧ head.text = r.flags.skip cs := by
  unfold head?
  rw [Option.map_eq_some_iff]
  constructor
  · rintro ⟨name, told, rfl⟩
    exact ⟨told, rfl⟩
  · rintro ⟨told, text⟩
    exact ⟨_, told, by rw [← text]⟩

theorem Named.head? {sign : String} {spelled : List Char} (named : Named r r' cs sign spelled rest) :
    r.head? cs = some ⟨.ofList spelled, r.flags.skip cs⟩ := by
  refine head?_eq_some_iff.2 ⟨headName?_eq_some_iff.2 ⟨?_, sign, named.known, rest, ?_⟩, rfl⟩
  · rw [String.toList_ofList]
    exact named.proper
  · rw [String.toList_ofList]
    exact named.begun

/-- Behind a head, a group is opened unless its name has been given before. -/
theorem openGroup_of_head (told : r.head? cs = some head) :
    head.name ∈ r.names ∧ r.openGroup cs = .error .duplicateGroupName ∨
    head.name ∉ r.names ∧ ∃ sign rest r', Named r r' cs sign head.name.toList rest := by
  obtain ⟨named, -⟩ := head?_eq_some_iff.1 told
  obtain ⟨proper, sign, known, rest, begun⟩ := headName?_eq_some_iff.1 named
  have apart := bracket_not_mem_of_isName proper
  by_cases used : head.name ∈ r.names
  · refine .inl ⟨used, ?_⟩
    have refused : r.enterNamed (head.name.toList ++ '>' :: rest) = .error .duplicateGroupName := by
      obtain ⟨before, behind⟩ := span_append apart rest
      obtain ⟨c, letters, spelled, _⟩ := exists_cons_of_isName proper
      have some : head.name.toList.isEmpty = false := by simp [spelled]
      simp [enterNamed, before, behind, some, proper, used]
    rcases mem_signs.1 known with rfl | rfl
    · exact (openGroup_of_name begun).trans refused
    · obtain ⟨c, letters, spelled, ahead, around⟩ := exists_cons_of_isName proper
      rw [spelled] at begun refused
      exact (openGroup_of_angle begun ahead around).trans refused
  · have fresh : r.names.contains (.ofList head.name.toList) = false := by simpa using used
    exact .inr ⟨used, sign, rest, _, known, begun, apart, proper, fresh, rfl⟩

/-! ### Heads that are found -/

/-- The heads that a reader comes to up to the end of its text. -/
def found (r : Reader) : List Head := r.heads (r.rest.length + 1)

/-- More fuel than there are characters makes no difference. -/
theorem heads_eq_found {fuel : Nat} (enough : r.rest.length < fuel) : r.heads fuel = r.found := by
  rw [found]
  generalize least : r.rest.length + 1 = least'
  have enough' : r.rest.length < least' := by omega
  clear least
  induction fuel generalizing r least' with
  | zero => cases enough
  | succ fuel ih =>
    obtain ⟨least', rfl⟩ := Nat.exists_eq_succ_of_ne_zero (by omega : least' ≠ 0)
    rw [Nat.succ_eq_add_one, heads, heads]
    have shorter := Flags.length_skip_le r.flags r.rest
    split
    · rfl
    · next c rest begun =>
      rw [begun, List.length_cons] at shorter
      cases stepped : r.step c rest with
      | error e => rfl
      | ok r' =>
        have less := (step_suffix stepped).length_le
        exact congrArg _ (ih (by omega) _ (by omega))

theorem found_of_skip_eq_nil (none : r.flags.skip r.rest = []) : r.found = [] := by
  rw [found, heads, none]

theorem found_of_error {e : Error} (begun : r.flags.skip r.rest = c :: rest)
    (failed : r.step c rest = .error e) : r.found = r.here c rest := by
  rw [found, heads, begun]
  simp only [failed]

theorem found_of_ok (begun : r.flags.skip r.rest = c :: rest) (stepped : r.step c rest = .ok r') :
    r.found = r.here c rest ++ r'.found := by
  have shorter := Flags.length_skip_le r.flags r.rest
  rw [begun, List.length_cons] at shorter
  have less := (step_suffix stepped).length_le
  rw [found, heads, begun]
  simp only [stepped, heads_eq_found (show r'.rest.length < r.rest.length by omega)]

theorem here_cases (r : Reader) (c : Char) (rest : List Char) :
    r.here c rest = [] ∨ ∃ head, r.here c rest = [head] := by
  unfold here
  split
  · cases r.head? rest <;> simp
  · exact .inl rfl

theorem mem_here (member : head ∈ r.here c rest) : c = '(' ∧ r.head? rest = some head := by
  unfold here at member
  split at member
  · next opening => exact ⟨opening, Option.mem_toList.1 member⟩
  · cases member

theorem here_suffix (begun : r.flags.skip r.rest = c :: rest) (member : head ∈ r.here c rest) :
    head.text <:+ r.rest := by
  obtain ⟨-, told⟩ := mem_here member
  rw [(head?_eq_some_iff.1 told).2]
  have skips := (Flags.steady_skip r.flags r.rest).suffix
  rw [begun] at skips
  exact (Flags.steady_skip r.flags rest).suffix.trans ((List.suffix_cons c rest).trans skips)

/-- A head that is found stands in the text. -/
theorem suffix_of_found (member : head ∈ r.found) :
    head.text <:+ r.rest ∧ headName? head.text = some head.name := by
  induction r using reading_induction with
  | ends r begun =>
    rw [found_of_skip_eq_nil begun] at member
    cases member
  | fails r c rest e begun failed =>
    rw [found_of_error begun failed] at member
    obtain ⟨named, text⟩ := head?_eq_some_iff.1 (mem_here member).2
    exact ⟨here_suffix begun member, text ▸ named⟩
  | goes r c rest r' begun stepped ih =>
    rw [found_of_ok begun stepped] at member
    rcases List.mem_append.1 member with first | later
    · obtain ⟨named, text⟩ := head?_eq_some_iff.1 (mem_here first).2
      exact ⟨here_suffix begun first, text ▸ named⟩
    · obtain ⟨suffix, named⟩ := ih later
      have skips := (Flags.steady_skip r.flags r.rest).suffix
      rw [begun] at skips
      exact ⟨(suffix.trans (step_suffix stepped)).trans ((List.suffix_cons c rest).trans skips), named⟩

/-- Heads are found one behind another. -/
theorem pairwise_found (r : Reader) :
    r.found.Pairwise fun head later => later.text.length < head.text.length := by
  have single (r : Reader) (c rest) :
      (r.here c rest).Pairwise fun head later => later.text.length < head.text.length := by
    rcases r.here_cases c rest with none | ⟨head, single⟩
    · rw [none]
      exact .nil
    · rw [single]
      exact List.pairwise_singleton _ _
  induction r using reading_induction with
  | ends r begun =>
    rw [found_of_skip_eq_nil begun]
    exact .nil
  | fails r c rest e begun failed =>
    rw [found_of_error begun failed]
    exact single r c rest
  | goes r c rest r' begun stepped ih =>
    rw [found_of_ok begun stepped]
    refine List.pairwise_append.2 ⟨single r c rest, ih, fun head first later behind => ?_⟩
    obtain ⟨rfl, told⟩ := mem_here first
    have opened : r.openGroup rest = .ok r' := stepped
    rcases openGroup_of_head told with ⟨_, refused⟩ | ⟨_, sign, after, r'', named⟩
    · cases refused.symm.trans opened
    · -- What is read next stands behind the name.
      obtain rfl : r'' = r' := Except.ok.inj (named.read.symm.trans opened)
      have within := (suffix_of_found behind).1.length_le
      rw [named.opened] at within
      have whole : head.text.length = _ := congrArg List.length
        ((head?_eq_some_iff.1 told).2.trans named.begun)
      simp only [List.length_append, List.length_cons] at whole
      exact Nat.lt_of_le_of_lt within (by simp only [Reader.named, enter]; omega)

end Reader

theorem suffix_of_mem_headsOf (member : head ∈ headsOf cs) :
    head.text <:+ cs ∧ headName? head.text = some head.name :=
  Reader.suffix_of_found (r := { rest := cs }) member

theorem pairwise_headsOf (cs : List Char) :
    (headsOf cs).Pairwise fun head later => later.text.length < head.text.length :=
  Reader.pairwise_found { rest := cs }

/-- An escaped parenthesis begins no group, and neither does one in a class or in a comment. -/
example : declared "\\(?<a>(?P<b>[(?P<c>])(?x)# (?P<d>\n(?<e>f)".toList = ["b", "e"] := by decide +kernel

end Regex

end LogSift
