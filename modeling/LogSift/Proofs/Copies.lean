import LogSift.Proofs.Captures
import LogSift.Proofs.Heads
import LogSift.Proofs.Tokenless

/-!
Copies of texts in expanded expressions. An expansion copies the expression and, for every token that it
opens, the body of its pattern; copies are numbered in the order in which they are begun. What stands
between the groups of a copy is what its text has between tokens (`parts_of_expand`). A head in an
expanded expression stands in a copy, or it is the head of a group that a token has become (`placed`).
-/

namespace LogSift.Expansion

open Regex (Written headName? headName?_eq_some_iff)

/-- The copies that have been begun: the number of copied bodies, and the copies that are not finished,
    innermost first. The copy with the number 0 is the one of the expression. -/
structure Copies where
  count : Nat := 0
  unfinished : List Nat := [0]

/-- The copy that is being made. -/
def Copies.current (copies : Copies) : Nat := copies.unfinished.headD 0

/-- The copies behind a piece: a body is begun where a group is opened, and finished where it is
    closed. -/
def Copies.next (copies : Copies) : Piece → Copies
  | .text _ => copies
  | .opening .. => ⟨copies.count + 1, (copies.count + 1) :: copies.unfinished⟩
  | .closing => ⟨copies.count, copies.unfinished.tail⟩

/-- The copy that a piece belongs to, if it has been copied from a text. -/
def Copies.of? (copies : Copies) : Piece → Option Nat
  | .text _ => some copies.current
  | .opening .. | .closing => none

/-- What has been copied into one of the copies, between the groups in it. -/
def parts (k : Nat) (copies : Copies) : List Piece → List (List Char)
  | [] => []
  | piece :: later =>
    (if copies.of? piece = some k then [piece.chars] else []) ++ parts k (copies.next piece) later

/-- The copy in which the last characters of what pieces spell begin, as many as `length`, if they begin
    in one. -/
def copyAt? (copies : Copies) (length : Nat) : List Piece → Option Nat
  | [] => none
  | piece :: later =>
    if length ≤ (later.flatMap Piece.chars).length then copyAt? (copies.next piece) length later
    else copies.of? piece

/-- No two texts are neighbours. -/
def Parted (pieces : List Piece) : Prop :=
  pieces.IsChain fun piece next => ∀ cs, piece = .text cs → ∀ more, next ≠ .text more

/-- What a text has before its tokens, and behind the last one. -/
def gaps (text : List Char) : List (List Char) :=
  match _split : Token.first? text with
  | none => [text]
  | some ⟨before, _, after⟩ => before :: gaps after
termination_by text.length
decreasing_by exact Token.length_of_first? _split

variable {library : Library} {expression : String} {namedOnly : Bool} {maxDepth : Nat}
  {token : Token} {name : String} {text before after : List Char} {piece : Piece}
  {pieces later : List Piece} {copies : Copies} {frames : List Frame} {out finished : Output}
  {result : Expansion} {k n : Nat}

theorem gaps_of_none (split : Token.first? text = none) : gaps text = [text] := by
  rw [gaps]
  split
  · rfl
  · next found => cases split.symm.trans found

theorem gaps_of_some (split : Token.first? text = some ⟨before, token, after⟩) :
    gaps text = before :: gaps after := by
  rw [gaps]
  split
  · next none => cases split.symm.trans none
  · next found =>
    cases split.symm.trans found
    rfl

/-! ### What is copied -/

/-- Copies that are not finished have different numbers, none of which is new. -/
structure Copies.Numbered (copies : Copies) : Prop where
  distinct : copies.unfinished.Nodup
  begun : ∀ n ∈ copies.unfinished, n ≤ copies.count

/-- In the beginning there is the copy of the expression. -/
theorem Copies.numbered_start : ({} : Copies).Numbered := ⟨by simp, by simp⟩

/-- The copy that is being made is the innermost one that is not finished. -/
theorem Copies.Numbered.innermost {ns : List Nat} (numbered : copies.Numbered)
    (unfinished : copies.unfinished = n :: ns) :
    copies.current = n ∧ n ∉ ns ∧ n ≤ copies.count := by
  have distinct := numbered.distinct
  rw [unfinished] at distinct
  refine ⟨by simp [Copies.current, unfinished], (List.nodup_cons.1 distinct).1, ?_⟩
  exact numbered.begun n (by simp [unfinished])

theorem Copies.Numbered.opening (numbered : copies.Numbered) (token : Token)
    (group : Option String) : (copies.next (.opening token group)).Numbered := by
  refine ⟨List.nodup_cons.2 ⟨fun member => ?_, numbered.distinct⟩, ?_⟩
  · have := numbered.begun _ member
    omega
  · intro n member
    rcases List.mem_cons.1 member with rfl | earlier
    · exact le_rfl
    · exact Nat.le_succ_of_le (numbered.begun n earlier)

theorem Copies.Numbered.closing (numbered : copies.Numbered) :
    (copies.next .closing).Numbered :=
  ⟨numbered.distinct.sublist (List.tail_sublist _),
    fun n member => numbered.begun n (List.mem_of_mem_tail member)⟩

@[simp] theorem parts_text (cs : List Char) : parts k copies (.text cs :: later) =
    (if copies.current = k then [cs] else []) ++ parts k copies later := by
  simp [parts, Copies.of?, Copies.next, Piece.chars]

@[simp] theorem parts_opening (token : Token) (group : Option String) :
    parts k copies (.opening token group :: later) =
      parts k (copies.next (.opening token group)) later := by
  simp [parts, Copies.of?]

@[simp] theorem parts_closing :
    parts k copies (.closing :: later) = parts k (copies.next .closing) later := by
  simp [parts, Copies.of?]

/-- What a run adds to copies that have been begun, and to those that it begins. -/
structure Continues (library : Library) (frames : List Frame) (copies : Copies)
    (added : List Piece) : Prop where
  /-- The copies of the frames go on with what the frames have still to read. -/
  unfinished : copies.unfinished.map (parts · copies added) = frames.map (gaps ·.rest)
  /-- Finished copies stay as they are. -/
  finished : ∀ n ≤ copies.count, n ∉ copies.unfinished → parts n copies added = []
  /-- New copies are those of the bodies of the tokens that are opened, in order. -/
  new : ∀ k token group, (added.filterMap Piece.opening?)[k]? = some (token, group) →
    ∃ body, library.lookup? token.pattern = some body ∧
      parts (copies.count + 1 + k) copies added = gaps body.toList
  parted : Parted added

/-- Only the outermost frame has no name. -/
def Rooted (frames : List Frame) : Prop := ∀ frame ∈ frames.dropLast, frame.name.isSome = true

theorem Rooted.tail {frame : Frame} (rooted : Rooted (frame :: frames)) : Rooted frames := by
  cases frames with
  | nil => nofun
  | cons next frames => exact fun frame member => rooted frame (List.mem_cons_of_mem _ member)

/-- The body of a pattern is read in a frame with its name. -/
theorem Rooted.enter {name : Option String} {rest : List Char}
    (rooted : Rooted (⟨name, rest⟩ :: frames)) (pattern : String) (body left : List Char) :
    Rooted (⟨some pattern, body⟩ :: ⟨name, left⟩ :: frames) := by
  intro frame member
  rcases List.mem_cons.1 member with rfl | member
  · rfl
  · cases frames with
    | nil => cases member
    | cons next frames =>
      rcases List.mem_cons.1 member with rfl | member
      · exact rooted ⟨name, rest⟩ List.mem_cons_self
      · exact rooted frame (List.mem_cons_of_mem _ member)

/-- A piece of another copy adds nothing. -/
theorem parts_text_of_ne (other : copies.current ≠ k) (cs : List Char) :
    parts k copies (.text cs :: later) = parts k copies later := by
  rw [parts_text, if_neg other, List.nil_append]

/-- The head of a group, or its end, keeps texts apart. -/
theorem Parted.cons (parted : Parted later) (cs : List Char) (apart : ∀ more, piece ≠ .text more) :
    Parted (.text cs :: piece :: later) :=
  .cons_cons (fun _ _ => apart) (List.isChain_cons.2 ⟨fun _ _ cs same => absurd same (apart cs), parted⟩)

/-- The expression ends with what its frame has still to read. -/
theorem continues_last {rest : List Char} (split : Token.first? rest = none)
    (unfinished : copies.unfinished = [n]) :
    Continues library [⟨none, rest⟩] copies [.text rest] := by
  have current : copies.current = n := by simp [Copies.current, unfinished]
  refine ⟨?_, fun k _ done => ?_, nofun, .singleton _⟩
  · rw [unfinished, List.map_singleton, List.map_singleton, gaps_of_none split, parts_text,
      if_pos current]
    rfl
  · rw [unfinished, List.mem_singleton] at done
    rw [parts_text_of_ne (by rw [current]; exact Ne.symm done)]
    rfl

/-- A frame that is left finishes its copy with what it has still to read. -/
theorem Continues.leave {rest : List Char} {name : Option String} {ns : List Nat}
    (continues : Continues library frames (copies.next .closing) later)
    (split : Token.first? rest = none) (numbered : copies.Numbered)
    (unfinished : copies.unfinished = n :: ns) :
    Continues library (⟨name, rest⟩ :: frames) copies (.text rest :: .closing :: later) := by
  obtain ⟨current, fresh, early⟩ := numbered.innermost unfinished
  have behind : (copies.next .closing).unfinished = ns := by simp [Copies.next, unfinished]
  have last : parts n (copies.next .closing) later = [] :=
    continues.finished n early (by rwa [behind])
  have others (k : Nat) (other : k ≠ n) :
      parts k copies (.text rest :: .closing :: later) = parts k (copies.next .closing) later := by
    rw [parts_text_of_ne (by rw [current]; exact Ne.symm other), parts_closing]
  refine ⟨?_, ?_, ?_, continues.parted.cons rest nofun⟩
  · rw [unfinished, List.map_cons, List.map_cons, ← continues.unfinished, behind]
    congr 1
    · simp [current, last, gaps_of_none split]
    · exact List.map_congr_left fun k member => others k (ne_of_mem_of_not_mem member fresh)
  · intro k early done
    rw [unfinished, List.mem_cons, not_or] at done
    rw [others k done.1]
    exact continues.finished k early (by rw [behind]; exact done.2)
  · intro k token group opened
    obtain ⟨body, found, told⟩ := continues.new k token group opened
    refine ⟨body, found, ?_⟩
    rw [others _ (by omega)]
    exact told

/-- A frame that opens a token puts what stands before it into its copy, and begins that of the body. -/
theorem Continues.enter {rest : List Char} {name inner : Option String} {ns : List Nat}
    {body : String} {group : Option String}
    (continues : Continues library (⟨inner, body.toList⟩ :: ⟨name, after⟩ :: frames)
      (copies.next (.opening token group)) later)
    (split : Token.first? rest = some ⟨before, token, after⟩)
    (found : library.lookup? token.pattern = some body) (numbered : copies.Numbered)
    (unfinished : copies.unfinished = n :: ns) :
    Continues library (⟨name, rest⟩ :: frames) copies
      (.text before :: .opening token group :: later) := by
  obtain ⟨current, fresh, early⟩ := numbered.innermost unfinished
  have others (k : Nat) (other : k ≠ n) :
      parts k copies (.text before :: .opening token group :: later) =
        parts k (copies.next (.opening token group)) later := by
    rw [parts_text_of_ne (by rw [current]; exact Ne.symm other), parts_opening]
  -- The copies behind the opening: that of the body, that of the frame, and those around it.
  have begins := continues.unfinished
  simp only [Copies.next, unfinished, List.map_cons, List.cons.injEq] at begins
  obtain ⟨inside, behind, around⟩ := begins
  refine ⟨?_, ?_, ?_, continues.parted.cons before nofun⟩
  · rw [unfinished, List.map_cons, List.map_cons, gaps_of_some split, ← behind, ← around]
    congr 1
    · simp [current, Copies.next, unfinished]
    · refine List.map_congr_left fun k member => ?_
      rw [others k (ne_of_mem_of_not_mem member fresh)]
      simp [Copies.next, unfinished]
  · intro k low done
    rw [unfinished, List.mem_cons, not_or] at done
    rw [others k done.1]
    refine continues.finished k (Nat.le_succ_of_le low) ?_
    simp only [Copies.next, unfinished, List.mem_cons, not_or]
    exact ⟨by omega, done⟩
  · intro k opened name told
    have first : (Piece.text before :: .opening token group :: later).filterMap Piece.opening? =
        (token, group) :: later.filterMap Piece.opening? := rfl
    rw [first] at told
    cases k with
    | zero =>
      obtain ⟨rfl, -⟩ : token = opened ∧ group = name := by simpa using told
      refine ⟨body, found, ?_⟩
      rw [others _ (by omega), ← inside]
      simp [Copies.next, unfinished]
    | succ k =>
      obtain ⟨text, known, copied⟩ := continues.new k opened name (by simpa using told)
      refine ⟨text, known, ?_⟩
      rw [others _ (by omega), ← copied]
      congr 1
      simp only [Copies.next]
      omega

/-- A run goes on with the copies of its frames. -/
theorem Runs.continues (runs : Runs library namedOnly maxDepth frames out finished)
    (rooted : Rooted frames) (numbered : copies.Numbered)
    (aligned : copies.unfinished.length = frames.length) :
    ∃ added, finished.pieces = added.reverse ++ out.pieces ∧
      Continues library frames copies added := by
  induction runs generalizing copies with
  | done =>
    rw [List.length_nil, List.length_eq_zero_iff] at aligned
    exact ⟨[], rfl, by simp [aligned], fun _ _ _ => rfl, nofun, .nil⟩
  | @leave name rest outer out finished split runs onward =>
    obtain ⟨n, ns, unfinished⟩ := List.exists_cons_of_length_eq_add_one aligned
    cases name with
    | none =>
      cases outer with
      | nil =>
        cases runs
        obtain rfl : ns = [] := by simpa [unfinished] using aligned
        exact ⟨[.text rest], rfl, continues_last split unfinished⟩
      | cons frame outer => cases rooted ⟨none, rest⟩ List.mem_cons_self
    | some name =>
      obtain ⟨added, pieces, continues⟩ := onward rooted.tail numbered.closing
        (by simpa [Copies.next, unfinished] using aligned)
      refine ⟨.text rest :: .closing :: added, ?_, continues.leave split numbered unfinished⟩
      rw [pieces]
      simp [Output.emit]
  | @enter name rest before after token text outer out entered finished split found opened _ onward =>
    obtain ⟨n, ns, unfinished⟩ := List.exists_cons_of_length_eq_add_one aligned
    obtain ⟨group, _, emits, _⟩ := enter_of_openToken opened
    obtain ⟨added, pieces, continues⟩ := onward (rooted.enter token.pattern text.toList after)
      (numbered.opening token group) (by simpa [Copies.next] using aligned)
    refine ⟨.text before :: .opening token group :: added, ?_,
      continues.enter split (lookup?_of_body found) numbered unfinished⟩
    rw [pieces, emits]
    simp [Output.emit]

/-- The text that a copy is made of: the expression for the one with the number 0, and for each other one
    the body of the token that it is begun for. -/
inductive CopyOf (library : Library) (expression : String) (result : Expansion) :
    Nat → String → Prop where
  | expression : CopyOf library expression result 0 expression
  | body {k : Nat} {token : Token} {group : Option String} {body : String}
      (opened : result.openings[k]? = some (token, group))
      (found : library.lookup? token.pattern = some body) :
      CopyOf library expression result (k + 1) body

/-- An expansion makes a copy of the expression, and none has been begun before. -/
theorem continues_of_expand [Regex.Engine]
    (expanded : library.expand expression namedOnly maxDepth = .ok result) :
    Continues library [⟨none, expression.toList⟩] {} result.pieces := by
  obtain ⟨finished, runs, rfl⟩ := expand_eq_ok_iff.1 expanded
  obtain ⟨added, pieces, continues⟩ := runs.continues nofun Copies.numbered_start rfl
  have all : (ofOutput finished).pieces = added := by simp [ofOutput, pieces]
  exact all ▸ continues

/-- Between its groups, a copy has what its text has between tokens. -/
theorem parts_of_expand [Regex.Engine]
    (expanded : library.expand expression namedOnly maxDepth = .ok result)
    {body : String} (copy : CopyOf library expression result k body) :
    parts k {} result.pieces = gaps body.toList := by
  have continues := continues_of_expand expanded
  cases copy with
  | expression => simpa using continues.unfinished
  | @body k token group _ opened found =>
    obtain ⟨_, known, told⟩ := continues.new k token group opened
    obtain rfl := Option.some.inj (known.symm.trans found)
    simpa [Nat.add_comm] using told

/-! ### Where heads stand -/

/-- No copy is begun but for a token that is opened. -/
theorem copyAt?_le {length : Nat} (numbered : copies.Numbered)
    (found : copyAt? copies length pieces = some k) :
    k ≤ copies.count + (pieces.filterMap Piece.opening?).length := by
  induction pieces generalizing copies with
  | nil => cases found
  | cons piece later ih =>
    rw [copyAt?] at found
    split at found
    · cases piece with
      | text cs => exact ih numbered found
      | opening token group =>
        have within := ih (numbered.opening token group) found
        simp only [Copies.next] at within
        simp only [List.filterMap_cons, Piece.opening?, List.length_cons]
        omega
      | closing =>
        have within := ih numbered.closing found
        exact within
    · cases piece with
      | text cs =>
        obtain rfl : copies.current = k := Option.some.inj found
        refine Nat.le_add_right_of_le ?_
        cases left : copies.unfinished with
        | nil => simp [Copies.current, left]
        | cons n ns =>
          obtain ⟨current, _, early⟩ := numbered.innermost left
          exact current ▸ early
      | opening token group => cases found
      | closing => cases found

/-- The groups that tokens have become are spelled with characters of groups. -/
def Spelled (openings : List (Token × Option String)) : Prop :=
  ∀ token name, (token, some name) ∈ openings → ∀ c ∈ name.toList, isGroupChar c = true

theorem Runs.spelled (runs : Runs library namedOnly maxDepth frames out finished)
    (spelled : Spelled out.openings) : Spelled finished.openings := by
  induction runs with
  | done => exact spelled
  | @leave name _ _ _ _ _ _ onward => exact onward (by cases name <;> exact spelled)
  | enter split _ opened _ onward =>
    refine onward fun token name member => ?_
    obtain ⟨group, openings, named⟩ := openings_openToken opened
    rw [openings] at member
    rcases List.mem_cons.1 member with same | earlier
    · cases same
      exact isGroupChar_of_enter (Token.first?_eq_append split).1 named
    · exact spelled token name earlier

theorem spelled_of_expand [Regex.Engine]
    (expanded : library.expand expression namedOnly maxDepth = .ok result) :
    Spelled result.openings := by
  obtain ⟨finished, runs, rfl⟩ := expand_eq_ok_iff.1 expanded
  intro token name member
  rw [openings_ofOutput, List.mem_reverse] at member
  exact runs.spelled nofun token name member

/-- In the head of a group, a sign stands only behind the parenthesis. -/
theorem eq_of_suffix_head {group : Option String} {rest : List Char}
    (spelled : ∀ name, group = some name → ∀ c ∈ name.toList, isGroupChar c = true)
    (suffix : '?' :: rest <:+ head group) : head group = '(' :: '?' :: rest := by
  cases group with
  | none =>
    have apart : ¬ '?' :: rest <:+ [':'] := fun ends => by
      have member := ends.mem List.mem_cons_self
      simp at member
    change '?' :: rest <:+ ['(', '?', ':'] at suffix
    rw [List.suffix_cons_iff, List.suffix_cons_iff] at suffix
    rcases suffix with same | same | ends
    · cases same
    · exact congrArg _ same.symm
    · exact absurd ends apart
  | some name =>
    have apart : ¬ '?' :: rest <:+ 'P' :: '<' :: (name.toList ++ ['>']) := fun ends => by
      have member := ends.mem List.mem_cons_self
      simp only [List.mem_cons, List.mem_append, List.not_mem_nil, or_false] at member
      rcases member with letter | bracket | char | bracket
      · exact absurd letter (by decide)
      · exact absurd bracket (by decide)
      · exact absurd (spelled name rfl _ char) (by decide)
      · exact absurd bracket (by decide)
    have chars : head (some name) = '(' :: '?' :: 'P' :: '<' :: (name.toList ++ ['>']) := rfl
    rw [chars] at suffix ⊢
    rw [List.suffix_cons_iff, List.suffix_cons_iff] at suffix
    rcases suffix with same | same | ends
    · cases same
    · exact congrArg _ same.symm
    · exact absurd ends apart

/-- A name is given behind a sign. -/
theorem exists_of_headName? (named : headName? text = some name) : ∃ rest, text = '?' :: rest := by
  obtain ⟨_, sign, known, rest, rfl⟩ := headName?_eq_some_iff.1 named
  rcases Regex.Reader.mem_signs.1 known with rfl | rfl
  · exact ⟨_, rfl⟩
  · exact ⟨_, rfl⟩

/-- A head that stands not only in what follows begins before it, with its sign. -/
theorem exists_start {front behind : List Char} (suffix : text <:+ front ++ behind)
    (beyond : ¬ text.length ≤ behind.length) (named : headName? text = some name) :
    ∃ rest, text = '?' :: rest ++ behind ∧ '?' :: rest <:+ front := by
  obtain ⟨earlier, whole⟩ := suffix
  rcases List.append_eq_append_iff.1 whole with ⟨start, all, rfl⟩ | ⟨_, _, inside⟩
  · obtain ⟨rest, sign⟩ := exists_of_headName? named
    cases start with
    | nil => exact absurd (by simp) beyond
    | cons c start =>
      obtain rfl := (List.cons.inj sign).1
      exact ⟨start, rfl, earlier, all.symm⟩
  · exact absurd (by simp [inside]) beyond

/-- The head that begins with the sign of a group is that of the group. -/
theorem eq_of_headName? {group : Option String} {rest : List Char}
    (spelled : ∀ name, group = some name → ∀ c ∈ name.toList, isGroupChar c = true)
    (opened : head group = '(' :: '?' :: rest)
    (named : headName? ('?' :: rest ++ text) = some name) :
    group = some name ∧ '?' :: rest ++ text = "?P<".toList ++ (name.toList ++ '>' :: text) := by
  cases group with
  | none =>
    cases opened
    cases named
  | some other =>
    obtain rfl : 'P' :: '<' :: (other.toList ++ ['>']) = rest := by simpa [head] using opened
    have apart : '>' ∉ other.toList := fun member => absurd (spelled other rfl _ member) (by decide)
    obtain ⟨before, behind⟩ := Regex.span_append apart text
    have same : other = name := by
      have told := named
      simp only [headName?, Regex.afterSign?, List.cons_append, List.append_assoc,
        List.nil_append, before, behind] at told
      split at told
      · simpa using told
      · cases told
    subst same
    exact ⟨rfl, by simp⟩

/-- A name that is given within text is written there, since no head goes on behind a parenthesis. -/
theorem written_of_headName? {start : List Char}
    (bounded : ∀ c rest, text = c :: rest → c = '(' ∨ c = ')')
    (named : headName? (start ++ text) = some name) : Written start name := by
  obtain ⟨proper, sign, known, rest, split⟩ := headName?_eq_some_iff.1 named
  refine ⟨Regex.bracket_not_mem_of_isName proper, sign, known, ?_⟩
  have part : start ++ text = (sign.toList ++ name.toList ++ ['>']) ++ rest := by simpa using split
  rcases List.append_eq_append_iff.1 part with ⟨more, all, behind⟩ | ⟨more, all, behind⟩
  · cases more with
    | nil => exact ⟨[], [], by simpa using all⟩
    | cons c more =>
      have member : c ∈ sign.toList ++ name.toList ++ ['>'] := by simp [all]
      have paren : c = '(' ∨ c = ')' := bounded c _ behind
      have apart : ∀ d, d = '(' ∨ d = ')' → d ∉ sign.toList ++ name.toList ++ ['>'] := by
        rintro d paren member
        simp only [List.mem_append, List.mem_singleton] at member
        rcases member with (inSign | inName) | bracket
        · rcases Regex.Reader.mem_signs.1 known with rfl | rfl <;> rcases paren with rfl | rfl <;>
            exact absurd inSign (by decide)
        · have char := Regex.isNameChar_of_mem proper inName
          rcases paren with rfl | rfl <;> exact absurd char (by decide)
        · rcases paren with rfl | rfl <;> cases bracket
      exact absurd member (apart c paren)
  · exact ⟨[], more, by simp [all]⟩

/-- What stands behind text in pieces is a parenthesis, or nothing. -/
theorem Parted.bounded {cs : List Char} (parted : Parted (.text cs :: later)) (c : Char)
    (rest : List Char) (spelled : later.flatMap Piece.chars = c :: rest) : c = '(' ∨ c = ')' := by
  cases later with
  | nil => cases spelled
  | cons piece later =>
    rw [List.flatMap_cons] at spelled
    cases piece with
    | text more => exact absurd rfl ((List.isChain_cons_cons.1 parted).1 cs rfl more)
    | opening token group =>
      obtain ⟨behind, opens⟩ := head_eq_cons group
      rw [chars_opening, opens] at spelled
      exact .inl (List.cons.inj spelled).1.symm
    | closing => exact .inr (List.cons.inj spelled).1.symm

/-- A head in what pieces spell is written in a copy, or it is that of a group which a token has
    become. -/
theorem placed (copies : Copies) (parted : Parted pieces)
    (spelled : Spelled (pieces.filterMap Piece.opening?))
    (suffix : text <:+ pieces.flatMap Piece.chars) (named : headName? text = some name) :
    (∃ k, copyAt? copies text.length pieces = some k ∧
      ∃ part ∈ parts k copies pieces, Written part name) ∨
    copyAt? copies text.length pieces = none ∧
      ∃ before token after, pieces = before ++ .opening token (some name) :: after ∧
        text = "?P<".toList ++ (name.toList ++ '>' :: after.flatMap Piece.chars) := by
  induction pieces generalizing copies with
  | nil =>
    rw [List.flatMap_nil, List.suffix_nil] at suffix
    obtain ⟨rest, spelled⟩ := exists_of_headName? named
    cases spelled.symm.trans suffix
  | cons piece later ih =>
    rw [List.flatMap_cons] at suffix
    by_cases within : text.length ≤ (later.flatMap Piece.chars).length
    · have behind : text <:+ later.flatMap Piece.chars :=
        List.suffix_of_suffix_length_le suffix (List.suffix_append _ _) within
      have onward : Spelled (later.filterMap Piece.opening?) := fun token name member =>
        spelled token name (by cases piece <;> simp_all [Piece.opening?])
      rcases ih (copies.next piece) (List.isChain_cons.1 parted).2 onward behind with
        ⟨k, found, part, member, written⟩ | ⟨none, before, token, after, rfl, begins⟩
      · refine .inl ⟨k, by rw [copyAt?, if_pos within, found], part, ?_, written⟩
        exact List.mem_append_right _ member
      · refine .inr ⟨?_, piece :: before, token, after, rfl, begins⟩
        rw [copyAt?, if_pos within, none]
    · obtain ⟨rest, rfl, stands⟩ := exists_start suffix within named
      cases piece with
      | text cs =>
        have written := written_of_headName? parted.bounded named
        refine .inl ⟨copies.current, by rw [copyAt?, if_neg within]; rfl, cs, ?_,
          written.of_suffix stands⟩
        simp
      | opening token group =>
        have chars : ∀ name, group = some name → ∀ c ∈ name.toList, isGroupChar c = true := by
          rintro name rfl
          exact spelled token name List.mem_cons_self
        rw [chars_opening] at stands
        obtain ⟨rfl, begins⟩ := eq_of_headName? chars (eq_of_suffix_head chars stands) named
        exact .inr ⟨by rw [copyAt?, if_neg within]; rfl, [], token, later, rfl, begins⟩
      | closing =>
        have member : '?' ∈ [')'] := stands.mem List.mem_cons_self
        exact absurd member (by decide)

/-- A part between tokens stands in the text. -/
theorem infix_of_mem_gaps {part : List Char} (member : part ∈ gaps text) : part <:+: text := by
  generalize measure : text.length = size
  induction size using Nat.strongRecOn generalizing text with
  | ind size ih =>
    cases split : Token.first? text with
    | none =>
      rw [gaps_of_none split, List.mem_singleton] at member
      exact member ▸ List.infix_refl _
    | some found =>
      obtain ⟨before, token, after⟩ := found
      have spelled := (Token.first?_eq_append split).2
      rw [gaps_of_some split] at member
      rcases List.mem_cons.1 member with rfl | later
      · exact ⟨[], token.chars ++ after, by rw [spelled]; simp⟩
      · have shorter := Token.length_of_first? split
        have suffix : after <:+ text := ⟨before ++ token.chars, spelled.symm⟩
        exact (ih after.length (measure ▸ shorter) later rfl).trans suffix.isInfix

/-- What begins in a copy begins in the copy of a text. -/
theorem exists_copyOf [Regex.Engine]
    (expanded : library.expand expression namedOnly maxDepth = .ok result) {length : Nat}
    (found : copyAt? {} length result.pieces = some k) :
    ∃ text, CopyOf library expression result k text := by
  cases k with
  | zero => exact ⟨expression, .expression⟩
  | succ k =>
    have within : k + 1 ≤ 0 + result.openings.length := copyAt?_le Copies.numbered_start found
    rw [Nat.zero_add] at within
    have opened : result.openings[k]? = some result.openings[k] := List.getElem?_eq_getElem within
    obtain ⟨body, known, _⟩ := (continues_of_expand expanded).new k _ _ opened
    exact ⟨body, .body opened known⟩

end LogSift.Expansion
