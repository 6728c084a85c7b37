import LogSift.Proofs.References
import LogSift.Proofs.Scanning

/-!
How long expansion takes, and what it keeps on the way. The loop here saves for each text that is
being expanded the offset in bytes at which it is to be read on, and stops short (`broken`) where a
search or a slice would begin or end within a character or beyond the text. That never happens: the
loop goes along with the frames of `run` (`next_running`), and every saved offset lies where a token
has ended. Since a name is not opened twice, no more bodies are open than there are names with a
definition, whatever the limit is, so there is a bound on the turns that does not depend on the
limit (`loop_bounded`).
-/

namespace LogSift.Expansion

open Token (Occurrence byteLength first?)

/-- The part of a text between two offsets in bytes. There is none unless both offsets lie in the
    text and between characters, and the first one does not come after the other. -/
def slice? (text : String) (start stop : Nat) : Option (List Char) :=
  if cuts : String.Pos.Raw.IsValid text ⟨start⟩ ∧ String.Pos.Raw.IsValid text ⟨stop⟩ ∧
      start ≤ stop then
    some (String.extract ⟨⟨start⟩, cuts.1⟩ ⟨⟨stop⟩, cuts.2.1⟩).toList
  else none

/-- The place of the first token of a text from an offset on, if there is a token. There is no
    search from where no slice begins. -/
def search? (text : String) (pos : Nat) : Option (Option Occurrence) :=
  (slice? text pos text.utf8ByteSize).map fun rest => (first? rest).map fun split =>
    ⟨pos + byteLength split.before,
      pos + byteLength split.before + byteLength split.token.chars, split.token⟩

/-- A text being expanded: the body of a pattern, or the expression, which has no name; and the
    offset at which it is to be read on. -/
structure Mark where
  name : Option String
  text : String
  pos : Nat
  deriving DecidableEq, Repr

/-- The names whose bodies are open, innermost first. -/
def openNamesIn (marks : List Mark) : List String := marks.filterMap (·.name)

/-- What the loop has come to. -/
inductive Progress where
  | running (marks : List Mark) (out : Output)
  | ended (result : Except Error Output)
  /-- A search or a slice had none of the text. -/
  | broken

/-- Checks a token and emits the head of its group: the body that is entered, and what has been
    emitted then. -/
def enter (library : Library) (namedOnly : Bool) (maxDepth : Nat) (marks : List Mark)
    (token : Token) (out : Output) : Except Error (String × Output) := do
  let text ← body library maxDepth (openNamesIn marks) (marks.length - 1) token
  let out ← out.openToken token namedOnly
  return (text, out)

/-- One turn of the loop: the innermost text is searched from its offset on. It is left if no token
    is found, and else the body of the token is entered, and the text goes on behind the token. -/
def Progress.next (library : Library) (namedOnly : Bool) (maxDepth : Nat) : Progress → Progress
  | running [] out => ended (.ok out)
  | running (mark :: outer) out =>
    match search? mark.text mark.pos with
    | none => broken
    | some none =>
      match slice? mark.text mark.pos mark.text.utf8ByteSize with
      | none => broken
      | some rest =>
        let out := out.emit (.text rest)
        running outer (if mark.name.isSome then out.emit .closing else out)
    | some (some place) =>
      match slice? mark.text mark.pos place.start with
      | none => broken
      | some before =>
        match enter library namedOnly maxDepth (mark :: outer) place.token
            (out.emit (.text before)) with
        | .error e => ended (.error e)
        | .ok (text, out) =>
          running (⟨some place.token.pattern, text, 0⟩ :: { mark with pos := place.stop } :: outer)
            out
  | ended result => ended result
  | broken => broken

/-- What the loop has come to after a number of turns. -/
def loop (library : Library) (expression : String) (namedOnly : Bool) (maxDepth : Nat) :
    Nat → Progress
  | 0 => .running [⟨none, expression, 0⟩] {}
  | turns + 1 => (loop library expression namedOnly maxDepth turns).next library namedOnly maxDepth

/-- What is kept while texts are being expanded. -/
structure Orderly (library : Library) (expression : String) (maxDepth : Nat) (marks : List Mark) :
    Prop where
  distinct : (openNamesIn marks).Nodup
  defined : ∀ name ∈ openNamesIn marks, library.contains name = true
  shallow : (openNamesIn marks).length ≤ maxDepth
  few : (openNamesIn marks).length ≤ library.resolvable.length
  texts : ∀ mark ∈ marks, mark.name.elim (some expression) library.lookup? = some mark.text
  offsets : ∀ mark ∈ marks, mark.pos ≤ mark.text.utf8ByteSize ∧
    String.Pos.Raw.IsValid mark.text ⟨mark.pos⟩

/-- The loop has kept order, and no search or slice has failed it. -/
def Progress.Safe (library : Library) (expression : String) (maxDepth : Nat) : Progress → Prop
  | running marks _ => Orderly library expression maxDepth marks
  | ended _ => True
  | broken => False

variable {library : Library} {expression : String} {namedOnly : Bool} {maxDepth : Nat}
  {frame : Frame} {outer frames : List Frame} {out next : Output} {text : String}
  {before part after : List Char} {mark : Mark} {marks : List Mark}

/-! ### Slices -/

/-- Where characters end, an offset lies between characters. -/
theorem isValid_byteLength (cut : text.toList = before ++ after) :
    String.Pos.Raw.IsValid text ⟨byteLength before⟩ := by
  refine String.Pos.Raw.isValid_iff_exists_append.2 ⟨.ofList before, .ofList after, ?_, ?_⟩
  · rw [← String.ofList_append, ← cut, String.ofList_toList]
  · rw [String.rawEndPos, Token.utf8ByteSize_ofList]

/-- A slice is what stands between its offsets. -/
theorem slice?_eq_some (cut : text.toList = before ++ part ++ after) :
    slice? text (byteLength before) (byteLength before + byteLength part) = some part := by
  have whole : text = .ofList before ++ .ofList part ++ .ofList after := by
    rw [← String.ofList_append, ← String.ofList_append, ← cut, String.ofList_toList]
  have first : String.Pos.Raw.IsValid text ⟨byteLength before⟩ :=
    isValid_byteLength (cut.trans (List.append_assoc ..))
  have last : String.Pos.Raw.IsValid text ⟨byteLength before + byteLength part⟩ :=
    Token.byteLength_append ▸ isValid_byteLength cut
  obtain ⟨ascends, copied⟩ :
      ∃ ascends, (text.slice ⟨_, first⟩ ⟨_, last⟩ ascends).copy = .ofList part :=
    String.copy_slice_eq_iff_splits.2 ⟨.ofList before, .ofList after,
      ⟨whole.trans (String.append_assoc ..), by rw [String.rawEndPos, Token.utf8ByteSize_ofList]⟩,
      ⟨whole, by rw [String.rawEndPos, ← String.ofList_append, Token.utf8ByteSize_ofList,
        Token.byteLength_append]⟩⟩
  rw [slice?, dif_pos ⟨first, last, Nat.le_add_right ..⟩, String.extract_eq_copy_slice _ _ ascends,
    copied, String.toList_ofList]

/-- The slice from an offset to the end of a text. -/
theorem slice?_rest (cut : text.toList = before ++ after) :
    slice? text (byteLength before) text.utf8ByteSize = some after := by
  rw [Token.utf8ByteSize_eq, cut, Token.byteLength_append]
  exact slice?_eq_some (cut.trans (List.append_nil _).symm)

theorem search?_rest (cut : text.toList = before ++ after) :
    search? text (byteLength before) = some ((first? after).map fun split =>
      ⟨byteLength before + byteLength split.before,
        byteLength before + byteLength split.before + byteLength split.token.chars,
        split.token⟩) := by
  rw [search?, slice?_rest cut]
  rfl

/-! ### The loop and the frames -/

/-- A frame reads the same text, and has the same part of it still to read. -/
structure Mark.Shows (library : Library) (expression : String) (mark : Mark) (frame : Frame) :
    Prop where
  name : mark.name = frame.name
  text : frame.text? library expression = some mark.text
  read : ∃ read, mark.text.toList = read ++ frame.rest ∧ mark.pos = byteLength read

theorem openNamesIn_eq (shows : List.Forall₂ (Mark.Shows library expression) marks frames) :
    openNamesIn marks = openNamesOf frames := by
  unfold openNamesIn openNamesOf
  induction shows with
  | nil => rfl
  | cons shows _ ih => rw [List.filterMap_cons, List.filterMap_cons, shows.name, ih]

/-- The loop takes the turn that the frames take. -/
theorem next_running {around : List Mark} (shows : mark.Shows library expression frame)
    (same : List.Forall₂ (Mark.Shows library expression) around outer) :
    (∃ e, turn library namedOnly maxDepth frame outer out = .error e ∧
      Progress.next library namedOnly maxDepth (.running (mark :: around) out) =
        .ended (.error e)) ∨
    ∃ marks frames next, turn library namedOnly maxDepth frame outer out = .ok (frames, next) ∧
      Progress.next library namedOnly maxDepth (.running (mark :: around) out) =
        .running marks next ∧
      List.Forall₂ (Mark.Shows library expression) marks frames := by
  obtain ⟨name, text, pos⟩ := mark
  obtain ⟨read, cut, rfl⟩ := shows.read
  rw [turn, Progress.next, search?_rest cut]
  cases found : first? frame.rest with
  | none =>
    refine .inr ⟨around, outer, _, rfl, ?_, same⟩
    simp only [Option.map_none, slice?_rest cut, ← shows.name]
  | some split =>
    have behind : text.toList = read ++ split.before ++ (split.token.chars ++ split.after) := by
      rw [cut, (Token.first?_eq_append found).2]
      simp
    have names := openNamesIn_eq (.cons shows same)
    have deep : (⟨name, text, byteLength read⟩ :: around).length - 1 = outer.length := by
      rw [List.length_cons, Nat.add_sub_cancel, same.length_eq]
    simp only [Option.map_some, slice?_eq_some behind]
    rw [enter, names, deep]
    cases answered :
        body library maxDepth (openNamesOf (frame :: outer)) outer.length split.token with
    | error e => exact .inl ⟨e, rfl, rfl⟩
    | ok entered =>
      cases opened : (out.emit (.text split.before)).openToken split.token namedOnly with
      | error e => exact .inl ⟨e, rfl, rfl⟩
      | ok next =>
        refine .inr ⟨_, _, next, rfl, rfl, .cons ?_ (.cons ?_ same)⟩
        · exact ⟨rfl, lookup?_of_body answered, [], rfl, rfl⟩
        · refine ⟨shows.name, shows.text, read ++ split.before ++ split.token.chars, ?_, ?_⟩
          · rw [behind, List.append_assoc _ split.token.chars]
          · simp [Nat.add_assoc]

/-! ### Open names -/

/-- What is kept of the names of frames: they are different and have a definition, there are no more
    of them than the limit allows, and only the outermost frame has none. -/
structure Stacked (library : Library) (maxDepth : Nat) (frames : List Frame) : Prop where
  distinct : (openNamesOf frames).Nodup
  defined : ∀ name ∈ openNamesOf frames, library.contains name = true
  shallow : (openNamesOf frames).length ≤ maxDepth
  named : frames = [] ∨ frames.map (·.name) = (openNamesOf frames).map some ++ [none]

theorem not_mem_of_body {openNames : List String} {depth : Nat} {token : Token}
    (answered : body library maxDepth openNames depth token = .ok text) :
    token.pattern ∉ openNames := by
  intro isOpen
  rw [body, if_pos (List.contains_iff_mem.2 isOpen)] at answered
  cases answered

theorem Stacked.length_eq (stacked : Stacked library maxDepth (frame :: outer)) :
    (openNamesOf (frame :: outer)).length = outer.length := by
  rcases stacked.named with none | named
  · cases none
  · simpa using (congrArg List.length named).symm

theorem Stacked.length_le (stacked : Stacked library maxDepth frames) :
    (openNamesOf frames).length ≤ library.resolvable.length :=
  stacked.distinct.length_le_of_subset fun name isOpen =>
    Library.mem_resolvable.2 (stacked.defined name isOpen)

theorem stacked_start : Stacked library maxDepth [⟨none, text.toList⟩] :=
  ⟨List.nodup_nil, by simp [openNamesOf], by simp [openNamesOf], .inr rfl⟩

theorem Stacked.leave (stacked : Stacked library maxDepth (frame :: outer)) :
    Stacked library maxDepth outer := by
  have ⟨distinct, defined, shallow, named⟩ := stacked
  have within : (openNamesOf outer).Sublist (openNamesOf (frame :: outer)) :=
    (List.sublist_cons_self ..).filterMap _
  refine ⟨distinct.sublist within, fun name isOpen => defined name (within.subset isOpen),
    within.length_le.trans shallow, ?_⟩
  rcases named with none | named
  · cases none
  obtain ⟨_ | name, rest⟩ := frame
  · -- The frame without name is the outermost one.
    left
    have named : none :: outer.map (·.name) = (openNamesOf outer).map some ++ [none] := named
    cases names : openNamesOf outer with
    | nil => simpa [names] using named
    | cons name others => simp [names] at named
  · right
    simpa [openNamesOf] using named

theorem Stacked.enter {token : Token} {rest : List Char}
    (stacked : Stacked library maxDepth (frame :: outer))
    (answered : body library maxDepth (openNamesOf (frame :: outer)) outer.length token =
      .ok text) :
    Stacked library maxDepth
      (⟨some token.pattern, text.toList⟩ :: ⟨frame.name, rest⟩ :: outer) := by
  have names : openNamesOf (⟨some token.pattern, text.toList⟩ :: ⟨frame.name, rest⟩ :: outer) =
      token.pattern :: openNamesOf (frame :: outer) := rfl
  refine ⟨?_, ?_, ?_, .inr ?_⟩
  · rw [names]
    exact stacked.distinct.cons (not_mem_of_body answered)
  · rw [names, List.forall_mem_cons]
    exact ⟨Library.contains_of_lookup? (lookup?_of_body answered), stacked.defined⟩
  · rw [names, List.length_cons, stacked.length_eq]
    exact lt_of_body answered
  · rcases stacked.named with none | named
    · cases none
    · rw [names, List.map_cons, List.map_cons (l := openNamesOf _), List.cons_append, ← named]
      rfl

/-- The names of what an expansion has come to. -/
theorem Reached.stacked (reached : Reached library expression namedOnly maxDepth frames out) :
    Stacked library maxDepth frames := by
  induction reached with
  | start => exact stacked_start
  | turn _ turned ih =>
    rcases turn_cases turned with ⟨_, rfl⟩ | ⟨_, _, _, answered, rfl⟩
    · exact ih.leave
    · exact ih.enter answered

/-- A turn leaves less work, in terms of the names that could be open at once. -/
theorem work_turn_lt
    (reached : Reached library expression namedOnly maxDepth (frame :: outer) out)
    (turned : turn library namedOnly maxDepth frame outer out = .ok (frames, next)) :
    work (library.longestBody + 2) library.resolvable.length frames <
      work (library.longestBody + 2) library.resolvable.length (frame :: outer) := by
  have after := (Reached.turn reached turned).stacked
  rcases turn_cases turned with ⟨_, rfl⟩ | ⟨split, text, found, answered, rfl⟩
  · exact work_close_lt (by omega)
  · refine work_open_lt ?_ (Token.length_of_first? found)
      (Nat.add_le_add_right (Library.length_le_longestBody (lookup?_of_body answered)) 2)
    have names := after.length_le
    rwa [after.length_eq, List.length_cons] at names

/-! ### Turns -/

/-- What the turns of an expansion can cost at most: as many names as have a definition can be
    opened one within the other, each in a text as long as the longest body. -/
def mostTurns (library : Library) (expression : String) : Nat :=
  (expression.length + 1) * Nat.pow (library.longestBody + 2) library.resolvable.length

/-- What is known after some turns: the loop shows what the frames have come to, and the turns are
    paid for by the work that is done; or the loop has ended with the result of the expansion. -/
inductive Traced [Regex.Engine]
    (library : Library) (expression : String) (namedOnly : Bool) (maxDepth : Nat)
    (turns : Nat) : Progress → Prop where
  | running {marks : List Mark} {frames : List Frame} {out : Output}
      (shows : List.Forall₂ (Mark.Shows library expression) marks frames)
      (reached : Reached library expression namedOnly maxDepth frames out)
      (paid : turns + work (library.longestBody + 2) library.resolvable.length frames ≤
        mostTurns library expression) :
      Traced library expression namedOnly maxDepth turns (.running marks out)
  | ended {result : Except Error Output}
      (same : library.expand expression namedOnly maxDepth = result.map ofOutput) :
      Traced library expression namedOnly maxDepth turns (.ended result)

theorem traced_start [Regex.Engine] : Traced library expression namedOnly maxDepth 0
    (.running [⟨none, expression, 0⟩] {}) := by
  refine .running (.cons ⟨rfl, rfl, [], rfl, rfl⟩ .nil) .start ?_
  simp [work, mostTurns, String.length_toList]

theorem Traced.forward [Regex.Engine] {turns : Nat} {progress : Progress}
    (traced : Traced library expression namedOnly maxDepth turns progress) :
    Traced library expression namedOnly maxDepth (turns + 1)
      (progress.next library namedOnly maxDepth) := by
  cases traced with
  | ended same => exact .ended same
  | @running marks frames out shows reached paid =>
    cases shows with
    | nil =>
      refine .ended ?_
      rw [reached.expand_eq, run]
    | cons shows same =>
      rcases next_running shows same with
        ⟨e, failed, ends⟩ | ⟨marks, frames, next, turned, runs, onward⟩
      · rw [ends]
        refine .ended ?_
        rw [reached.expand_eq, run_eq_turn, failed]
      · rw [runs]
        have less := work_turn_lt reached turned
        exact .running onward (reached.turn turned) (by omega)

theorem traced_loop [Regex.Engine]
    (turns : Nat) : Traced library expression namedOnly maxDepth turns
    (loop library expression namedOnly maxDepth turns) := by
  induction turns with
  | zero => exact traced_start
  | succ turns ih => exact ih.forward

/-- What frames keep, the loop keeps. -/
theorem orderly_of_shows (shows : List.Forall₂ (Mark.Shows library expression) marks frames)
    (stacked : Stacked library maxDepth frames) : Orderly library expression maxDepth marks := by
  have names := openNamesIn_eq shows
  have each : ∀ mark ∈ marks, ∃ frame, mark.Shows library expression frame :=
    ((List.forall₂_and_left _ _).1 (shows.imp fun _ frame shows => ⟨⟨frame, shows⟩, shows⟩)).1
  refine ⟨names ▸ stacked.distinct, names ▸ stacked.defined, names ▸ stacked.shallow,
    names ▸ stacked.length_le, fun mark member => ?_, fun mark member => ?_⟩
  · obtain ⟨⟨_, _⟩, rfl, reads, _⟩ := each mark member
    unfold Frame.text? at reads
    cases named : mark.name with
    | none => simpa [named] using reads
    | some name => simpa [named] using reads
  · obtain ⟨frame, _, _, read, cut, reached⟩ := each mark member
    rw [reached]
    have valid := isValid_byteLength cut
    exact ⟨valid.le_utf8ByteSize, valid⟩

theorem Traced.safe [Regex.Engine] {turns : Nat} {progress : Progress}
    (traced : Traced library expression namedOnly maxDepth turns progress) :
    progress.Safe library expression maxDepth := by
  cases traced with
  | running shows reached => exact orderly_of_shows shows reached.stacked
  | ended => trivial

/-- The loop has ended when more turns have been taken than could be paid for. -/
theorem Traced.has_ended [Regex.Engine] {turns : Nat} {progress : Progress}
    (traced : Traced library expression namedOnly maxDepth turns progress)
    (late : mostTurns library expression < turns) :
    ∃ result, progress = .ended result ∧
      library.expand expression namedOnly maxDepth = result.map ofOutput := by
  cases traced with
  | running _ _ paid => omega
  | ended same => exact ⟨_, rfl, same⟩

/-- The loop ends, with the result of the expansion, after no more turns than can be told from the
    expression and the library, whatever the limit is. Until then the open names are different, have
    a definition, and are no more than the limit and no more than there are names with a definition;
    every saved offset lies in its text and between characters; and no search or slice fails. -/
theorem loop_bounded [Regex.Engine] (library : Library) (expression : String) (namedOnly : Bool)
    (maxDepth : Nat) :
    (∀ turns, (loop library expression namedOnly maxDepth turns).Safe library expression maxDepth) ∧
    ∃ turns ≤ mostTurns library expression + 1, ∃ result,
      loop library expression namedOnly maxDepth turns = .ended result ∧
        library.expand expression namedOnly maxDepth = result.map ofOutput :=
  ⟨fun turns => (traced_loop turns).safe,
    _, Nat.le_refl _, (traced_loop _).has_ended (Nat.lt_succ_self _)⟩

end LogSift.Expansion
