import LogSift.Proofs.Nested
import LogSift.Proofs.Occurrences
import LogSift.Regex.Footprint

/-!
How expansion scans texts. A run is made of turns (`run_eq_turn`), in each of which the innermost
frame searches what it has still to read. Whatever happens in between, a frame has always visited
the first places of its text up to where the last of them ends, and what it finds there is the next
one (`Reached.scans`). So the places visited are those that are found in a text at once.
-/

namespace LogSift.Expansion

open Token (Occurrence StandsIn Spells occurrences ofString? locate splits byteLength first?)

/-- What one turn makes of the frames, the innermost of them first: that is left if no token is left
    in it, or its next token is opened, and the body of the token is entered. -/
def turn (library : Library) (namedOnly : Bool) (maxDepth : Nat) (frame : Frame)
    (outer : List Frame) (out : Output) : Except Error (List Frame × Output) :=
  match first? frame.rest with
  | none =>
    let out := out.emit (.text frame.rest)
    .ok (outer, if frame.name.isSome then out.emit .closing else out)
  | some ⟨before, token, after⟩ => do
    let text ← body library maxDepth (openNamesOf (frame :: outer)) outer.length token
    let out ← (out.emit (.text before)).openToken token namedOnly
    return (⟨some token.pattern, text.toList⟩ :: { frame with rest := after } :: outer, out)

/-- What an expansion has come to after some turns. -/
inductive Reached (library : Library) (expression : String) (namedOnly : Bool) (maxDepth : Nat) :
    List Frame → Output → Prop where
  | start : Reached library expression namedOnly maxDepth [⟨none, expression.toList⟩] {}
  | turn {frame : Frame} {outer frames : List Frame} {out next : Output}
      (reached : Reached library expression namedOnly maxDepth (frame :: outer) out)
      (turned : turn library namedOnly maxDepth frame outer out = .ok (frames, next)) :
      Reached library expression namedOnly maxDepth frames next

/-- The text that a frame reads: the expression, or the body of its pattern. -/
def Frame.text? (library : Library) (expression : String) (frame : Frame) : Option String :=
  match frame.name with
  | none => some expression
  | some name => library.lookup? name

/-- Where a search goes on when places have been visited: where the last one ends. -/
def stopOf (seen : List Occurrence) : Nat := (seen.getLast?.map (·.stop)).getD 0

/-- The place of the token that a search finds. -/
def placeOf (seen : List Occurrence) (split : Token.Split) : Occurrence :=
  ⟨stopOf seen + byteLength split.before,
    stopOf seen + byteLength split.before + byteLength split.token.chars, split.token⟩

/-- The first places of a text have been visited. What is still to be read begins where the last of
    them ends, and a search there finds the next place, or none if all have been visited. -/
structure Visited (text : String) (rest : List Char) (seen : List Occurrence) : Prop where
  read : ∃ read, text.toList = read ++ rest ∧ byteLength read = stopOf seen
  complete : first? rest = none → occurrences text = seen
  next : ∀ split, first? rest = some split → ∃ later, occurrences text = seen ++ placeOf seen split :: later

variable {library : Library} {expression : String} {namedOnly : Bool} {maxDepth : Nat}
  {frame : Frame} {outer frames : List Frame} {out next : Output} {text : String}
  {rest : List Char} {seen : List Occurrence}

/-- A run is its first turn and the run after that. -/
theorem run_eq_turn : run library namedOnly maxDepth (frame :: outer) out =
    match turn library namedOnly maxDepth frame outer out with
    | .error e => .error e
    | .ok (frames, out) => run library namedOnly maxDepth frames out := by
  obtain ⟨name, rest⟩ := frame
  cases split : first? rest with
  | none =>
    rw [run_of_none split, turn]
    simp only [split]
  | some found =>
    rw [run_of_some split, turn]
    simp only [split]
    cases body library maxDepth (openNamesOf (⟨name, rest⟩ :: outer)) outer.length found.token with
    | error e => rfl
    | ok text =>
      simp only [bind, Except.bind]
      cases (out.emit (.text found.before)).openToken found.token namedOnly with
      | error e => rfl
      | ok out => rfl

/-- A turn enters the body of the next token. -/
theorem turn_of_some {name : Option String} {split : Token.Split} {text : String}
    (found : first? rest = some split)
    (answered : body library maxDepth (openNamesOf (⟨name, rest⟩ :: outer)) outer.length
      split.token = .ok text)
    (opened : (out.emit (.text split.before)).openToken split.token namedOnly = .ok next) :
    turn library namedOnly maxDepth ⟨name, rest⟩ outer out =
      .ok (⟨some split.token.pattern, text.toList⟩ :: ⟨name, split.after⟩ :: outer, next) := by
  rw [turn, found]
  simp only [answered, opened, bind, Except.bind]
  rfl

/-! ### Places visited -/

/-- The places of a text are those visited and those found in what is still to be read of it. -/
structure Ahead (text : String) (rest : List Char) (seen : List Occurrence) : Prop where
  read : ∃ read, text.toList = read ++ rest ∧ byteLength read = stopOf seen
  ahead : occurrences text = seen ++ locate (stopOf seen) (splits rest)

theorem ahead_start (text : String) : Ahead text text.toList [] :=
  ⟨⟨[], rfl, rfl⟩, rfl⟩

theorem stopOf_concat (place : Occurrence) : stopOf (seen ++ [place]) = place.stop := by
  simp [stopOf]

theorem Ahead.advance {split : Token.Split} (ahead : Ahead text rest seen)
    (found : first? rest = some split) :
    Ahead text split.after (seen ++ [placeOf seen split]) := by
  obtain ⟨read, text, bytes⟩ := ahead.read
  refine ⟨⟨read ++ split.before ++ split.token.chars, ?_, ?_⟩, ?_⟩
  · rw [text, (Token.first?_eq_append found).2]
    simp
  · rw [stopOf_concat]
    simp [placeOf, bytes, Nat.add_assoc]
  · rw [ahead.ahead, Token.splits_of_some found, stopOf_concat]
    simp [locate, placeOf]

theorem Ahead.visited (ahead : Ahead text rest seen) : Visited text rest seen := by
  refine ⟨ahead.read, fun none => ?_, fun split found => ?_⟩
  · rw [ahead.ahead, Token.splits_of_none none, locate, List.append_nil]
  · rw [ahead.ahead, Token.splits_of_some found]
    exact ⟨_, rfl⟩

/-! ### Turns -/

/-- A turn leaves the frames around the innermost one as they are. The innermost one is left, or
    reads on behind its next token, with the body that the token stands for before it. -/
theorem turn_cases (turned : turn library namedOnly maxDepth frame outer out = .ok (frames, next)) :
    (first? frame.rest = none ∧ frames = outer) ∨
    ∃ split text, first? frame.rest = some split ∧
      body library maxDepth (openNamesOf (frame :: outer)) outer.length split.token = .ok text ∧
      frames = ⟨some split.token.pattern, text.toList⟩ :: ⟨frame.name, split.after⟩ :: outer := by
  unfold turn at turned
  cases split : first? frame.rest with
  | none =>
    rw [split] at turned
    cases turned
    exact .inl ⟨rfl, rfl⟩
  | some found =>
    rw [split] at turned
    obtain ⟨text, answered, turned⟩ := bind_eq_ok turned
    obtain ⟨entered, _, turned⟩ := bind_eq_ok turned
    cases turned
    exact .inr ⟨found, text, rfl, answered, rfl⟩

/-- In every frame that an expansion has come to, the places of its text are visited in order. -/
theorem Reached.ahead (reached : Reached library expression namedOnly maxDepth frames out) :
    ∀ frame ∈ frames, ∃ text seen, frame.text? library expression = some text ∧
      Ahead text frame.rest seen := by
  induction reached with
  | start =>
    intro frame member
    obtain rfl := List.mem_singleton.1 member
    exact ⟨expression, [], rfl, ahead_start expression⟩
  | @turn frame outer frames _ _ _ turned ih =>
    rcases turn_cases turned with ⟨_, rfl⟩ | ⟨split, body, found, answered, rfl⟩
    · exact fun frame member => ih frame (List.mem_cons_of_mem _ member)
    · -- Only two frames are new: the body begins, and the text around it goes on behind the token.
      intro other member
      rcases List.mem_cons.1 member with rfl | member
      · exact ⟨body, [], lookup?_of_body answered, ahead_start body⟩
      rcases List.mem_cons.1 member with rfl | member
      · obtain ⟨text, seen, reads, ahead⟩ := ih frame List.mem_cons_self
        exact ⟨text, _, reads, ahead.advance found⟩
      · exact ih other (List.mem_cons_of_mem _ member)

/-- A frame of an expansion has visited the first places of its text, and finds the next one. -/
theorem Reached.scans (reached : Reached library expression namedOnly maxDepth frames out)
    (member : frame ∈ frames) : ∃ text seen, frame.text? library expression = some text ∧
      Visited text frame.rest seen := by
  obtain ⟨text, seen, reads, ahead⟩ := reached.ahead frame member
  exact ⟨text, seen, reads, ahead.visited⟩

/-- An expansion ends as the run does from anything that it has come to. -/
theorem Reached.expand_eq [Regex.Engine]
    (reached : Reached library expression namedOnly maxDepth frames out) :
    library.expand expression namedOnly maxDepth =
      (run library namedOnly maxDepth frames out).map ofOutput := by
  induction reached with
  | start => exact Library.expand_eq_run ..
  | turn _ turned ih => rw [ih, run_eq_turn, turned]

/-- A text is read as a token just if it is spelled like one; the places found in a text are those
    of its parts that are read as tokens, from left to right and apart; and an expansion, which
    searches a text again and again from where the last token ended, visits the same places. -/
theorem tokens_exact [Regex.Engine] :
    (∀ text token, ofString? text = some token ↔ Spells text token) ∧
    (∀ text, ((occurrences text).Pairwise fun one other => one.stop ≤ other.start) ∧
      (∀ place ∈ occurrences text, place.start < place.stop) ∧
      ∀ place, place ∈ occurrences text ↔ StandsIn text place) ∧
    ∀ library expression namedOnly maxDepth frames out,
      Reached library expression namedOnly maxDepth frames out →
        library.expand expression namedOnly maxDepth =
          (run library namedOnly maxDepth frames out).map ofOutput ∧
        ∀ frame ∈ frames, ∃ text seen, frame.text? library expression = some text ∧
          Visited text frame.rest seen :=
  ⟨fun _ _ => Token.ofString?_eq_some_iff,
    fun text => ⟨Token.occurrences_ascend text, fun _ => Token.start_lt_stop,
      fun _ => Token.mem_occurrences⟩,
    fun _ _ _ _ _ _ reached => ⟨reached.expand_eq, fun _ => reached.scans⟩⟩

/-- A library of one pattern, in which a token is left unfinished. -/
def unfinished : Library := (Library.withBuiltin false).insert "A" "%\x7bB"

/-- After one turn the first of two tokens is open, and the second one is still to be read. -/
theorem reached_unfinished : ∃ out : Output, Reached unfinished "%{A}%{A:x}" true 1
    [⟨some "A", "%\x7bB".toList⟩, ⟨none, "%{A:x}".toList⟩] out := by
  have split : first? "%{A}%{A:x}".toList = some ⟨[], ⟨"A", none, none⟩, "%{A:x}".toList⟩ := by
    decide +kernel
  have found : unfinished.lookup? "A" = some "%\x7bB" := by decide +kernel
  have answered : body unfinished 1 (openNamesOf [⟨none, "%{A}%{A:x}".toList⟩]) 0
      ⟨"A", none, none⟩ = .ok "%\x7bB" := by
    simp [body, openNamesOf, found]
  exact ⟨_, .turn .start (turn_of_some split answered rfl)⟩

theorem tokens_exact_unfinished : ∃ out : Output,
    Reached unfinished "%{A}%{A:x}" true 1
      [⟨some "A", "%\x7bB".toList⟩, ⟨none, "%{A:x}".toList⟩] out ∧
    ∀ frame ∈ [(⟨some "A", "%\x7bB".toList⟩ : Frame), ⟨none, "%{A:x}".toList⟩],
      ∃ text seen, frame.text? unfinished "%{A}%{A:x}" = some text ∧
        Visited text frame.rest seen := by
  obtain ⟨out, reached⟩ := reached_unfinished
  exact ⟨out, reached, (tokens_exact.2.2 _ _ _ _ _ _ reached).2⟩

end LogSift.Expansion
