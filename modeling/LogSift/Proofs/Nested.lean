import LogSift.Proofs.Alias

/-!
Expansion by recursion. `nested` copies the text between tokens and puts, for a token, a group
around the expansion of its body, which is done by the same function. The frames of `run` are the
calls of `nested` that have not returned: a frame ends as its call does (`run_frame`). Where they
succeed, both go by a few rules (`Nests`, `Runs`), over which one can argue without their failures.
-/

namespace LogSift.Expansion

open Std (TreeMap TreeSet)

/-- What the tokens so far have named. The group names in use are those that have a field. -/
structure Naming where
  captures : TreeMap String String := ∅
  fieldHints : TreeMap String Hint := ∅

/-- The group names that have a field. -/
def namesOf (captures : TreeMap String String) : TreeSet String := .ofList captures.keys

theorem mem_namesOf {captures : TreeMap String String} {name : String} :
    name ∈ namesOf captures ↔ name ∈ captures := by
  simp [namesOf]

/-- The group name of one more token, if it captures a field, and what is named then. -/
def Naming.enter (naming : Naming) (token : Token) (namedOnly : Bool) :
    Except Error (Option String × Naming) :=
  match token.fieldName? namedOnly with
  | none => .ok (none, naming)
  | some field =>
    if FieldName.isReserved field then .error (.reservedFieldName field)
    else
      let group := freshGroup (namesOf naming.captures) (FieldName.encode field)
      .ok (some group, {
        captures := naming.captures.insert group field
        fieldHints := match token.type with
          | none => naming.fieldHints
          | some type => naming.fieldHints.insert field (.ofWord type) })

theorem contains_freshGroup (captures : TreeMap String String) (encoded : String) :
    captures.contains (freshGroup (namesOf captures) encoded) = false := by
  have free := freshGroup_free (namesOf captures) encoded
  rw [← Bool.not_eq_true, TreeSet.contains_iff_mem, mem_namesOf] at free
  rw [← Bool.not_eq_true, TreeMap.contains_iff_mem]
  exact free

/-- The head of a group. -/
def head : Option String → List Char
  | none => "(?:".toList
  | some group => "(?P<".toList ++ group.toList ++ ">".toList

/-- The expansion of a text by recursion, and what is named after it. `openNames` are the names
    whose bodies the text stands in, outermost first. -/
def nested (library : Library) (namedOnly : Bool) (maxDepth : Nat) (openNames : List String)
    (naming : Naming) (text : List Char) : Except Error (List Char × Naming) :=
  match _split : Token.first? text with
  | none => .ok (text, naming)
  | some ⟨before, token, after⟩ =>
    if token.pattern ∈ openNames then
      .error (.cyclicPattern (openNames.dropWhile (· != token.pattern) ++ [token.pattern]))
    else if _deep : maxDepth ≤ openNames.length then .error (.depthExceeded maxDepth)
    else
      match library.lookup? token.pattern with
      | none => .error (.unknownPattern token.pattern)
      | some body => do
        let (group, naming) ← naming.enter token namedOnly
        let (inner, naming) ←
          nested library namedOnly maxDepth (openNames ++ [token.pattern]) naming body.toList
        let (later, naming) ← nested library namedOnly maxDepth openNames naming after
        return (before ++ head group ++ inner ++ ")".toList ++ later, naming)
termination_by (maxDepth - openNames.length, text.length)
decreasing_by
  · exact Prod.Lex.left _ _ (by rw [List.length_append, List.length_singleton]; omega)
  · exact Prod.Lex.right _ (Token.length_of_first? _split)

/-- The expansion of an expression by recursion: the regular expression, and what is named. -/
def ofNested (library : Library) (expression : String) (namedOnly : Bool) (maxDepth : Nat) :
    Except Error (String × Naming) :=
  (nested library namedOnly maxDepth [] {} expression.toList).map fun (text, naming) =>
    (.ofList text, naming)

/-- The names whose bodies frames expand, innermost first. -/
def openNamesOf (frames : List Frame) : List String := frames.filterMap (·.name)

theorem nested_of_none {library : Library} {namedOnly : Bool} {maxDepth : Nat}
    {openNames : List String} {naming : Naming} {text : List Char}
    (split : Token.first? text = none) :
    nested library namedOnly maxDepth openNames naming text = .ok (text, naming) := by
  rw [nested]
  grind

theorem nested_of_some {library : Library} {namedOnly : Bool} {maxDepth : Nat}
    {openNames : List String} {naming : Naming} {text before after : List Char} {token : Token}
    (split : Token.first? text = some ⟨before, token, after⟩) :
    nested library namedOnly maxDepth openNames naming text =
      if token.pattern ∈ openNames then
        .error (.cyclicPattern (openNames.dropWhile (· != token.pattern) ++ [token.pattern]))
      else if maxDepth ≤ openNames.length then .error (.depthExceeded maxDepth)
      else
        match library.lookup? token.pattern with
        | none => .error (.unknownPattern token.pattern)
        | some body => do
          let (group, naming) ← naming.enter token namedOnly
          let (inner, naming) ←
            nested library namedOnly maxDepth (openNames ++ [token.pattern]) naming body.toList
          let (later, naming) ← nested library namedOnly maxDepth openNames naming after
          return (before ++ head group ++ inner ++ ")".toList ++ later, naming) := by
  rw [nested]
  split
  · next none => simp [none] at split
  · next found =>
    rw [split] at found
    cases found
    rfl

theorem run_of_none {library : Library} {namedOnly : Bool} {maxDepth : Nat} {name : Option String}
    {rest : List Char} {outer : List Frame} {out : Output} (split : Token.first? rest = none) :
    run library namedOnly maxDepth (⟨name, rest⟩ :: outer) out =
      run library namedOnly maxDepth outer
        (if name.isSome then (out.emit (.text rest)).emit .closing else out.emit (.text rest)) := by
  rw [run]
  split
  · rfl
  · next found => simp [split] at found

theorem run_of_some {library : Library} {namedOnly : Bool} {maxDepth : Nat} {name : Option String}
    {rest before after : List Char} {token : Token} {outer : List Frame} {out : Output}
    (split : Token.first? rest = some ⟨before, token, after⟩) :
    run library namedOnly maxDepth (⟨name, rest⟩ :: outer) out =
      match body library maxDepth (openNamesOf (⟨name, rest⟩ :: outer)) outer.length token with
      | .error e => .error e
      | .ok text =>
        match (out.emit (.text before)).openToken token namedOnly with
        | .error e => .error e
        | .ok out =>
          run library namedOnly maxDepth
            (⟨some token.pattern, text.toList⟩ :: ⟨name, after⟩ :: outer) out := by
  rw [run]
  split
  · next none => simp [none] at split
  · next found =>
    rw [split] at found
    cases found
    cases opened : body library maxDepth (openNamesOf (⟨name, rest⟩ :: outer)) outer.length token
      <;> grind [openNamesOf]

/-! ### Success, rule by rule -/

/-- A text becomes its expansion: without tokens it stays as it is, and else the first token becomes
    a group around the expansion of its body, before the expansion of what is behind the token. -/
inductive Nests (library : Library) (namedOnly : Bool) (maxDepth : Nat) :
    List String → Naming → List Char → List Char → Naming → Prop where
  | plain {openNames : List String} {naming : Naming} {text : List Char}
      (split : Token.first? text = none) :
      Nests library namedOnly maxDepth openNames naming text text naming
  | token {openNames : List String} {naming entry middle final : Naming}
      {text before after inner later : List Char} {token : Token} {body : String}
      {group : Option String} (split : Token.first? text = some ⟨before, token, after⟩)
      (fresh : token.pattern ∉ openNames) (shallow : openNames.length < maxDepth)
      (found : library.lookup? token.pattern = some body)
      (entered : naming.enter token namedOnly = .ok (group, entry))
      (inside : Nests library namedOnly maxDepth (openNames ++ [token.pattern]) entry body.toList
        inner middle)
      (behind : Nests library namedOnly maxDepth openNames middle after later final) :
      Nests library namedOnly maxDepth openNames naming text
        (before ++ head group ++ inner ++ ")".toList ++ later) final

/-- A run comes to its end: a frame without tokens is left, and a token is opened and the body
    that it stands for entered. -/
inductive Runs (library : Library) (namedOnly : Bool) (maxDepth : Nat) :
    List Frame → Output → Output → Prop where
  | done {out : Output} : Runs library namedOnly maxDepth [] out out
  | leave {name : Option String} {rest : List Char} {outer : List Frame} {out finished : Output}
      (split : Token.first? rest = none)
      (onward : Runs library namedOnly maxDepth outer
        (if name.isSome then (out.emit (.text rest)).emit .closing else out.emit (.text rest))
        finished) :
      Runs library namedOnly maxDepth (⟨name, rest⟩ :: outer) out finished
  | enter {name : Option String} {rest before after : List Char} {token : Token} {text : String}
      {outer : List Frame} {out entered finished : Output}
      (split : Token.first? rest = some ⟨before, token, after⟩)
      (found : body library maxDepth (openNamesOf (⟨name, rest⟩ :: outer)) outer.length token =
        .ok text)
      (opened : (out.emit (.text before)).openToken token namedOnly = .ok entered)
      (onward : Runs library namedOnly maxDepth
        (⟨some token.pattern, text.toList⟩ :: ⟨name, after⟩ :: outer) entered finished) :
      Runs library namedOnly maxDepth (⟨name, rest⟩ :: outer) out finished

theorem bind_eq_ok {α β : Type} {x : Except Error α} {f : α → Except Error β} {b : β}
    (h : x >>= f = .ok b) : ∃ a, x = .ok a ∧ f a = .ok b := by
  cases x with
  | error e => cases h
  | ok a => exact ⟨a, rfl, h⟩

theorem bind_eq_error {α β : Type} {x : Except Error α} {f : α → Except Error β} {e : Error}
    (h : x >>= f = .error e) : x = .error e ∨ ∃ a, x = .ok a ∧ f a = .error e := by
  cases x with
  | error e' => cases h; exact .inl rfl
  | ok a => exact .inr ⟨a, rfl, h⟩

theorem nested_eq_ok_iff {library : Library} {namedOnly : Bool} {maxDepth : Nat}
    {openNames : List String} {naming final : Naming} {text expanded : List Char} :
    nested library namedOnly maxDepth openNames naming text = .ok (expanded, final) ↔
      Nests library namedOnly maxDepth openNames naming text expanded final := by
  constructor
  · intro result
    induction openNames, naming, text using nested.induct library maxDepth
      generalizing expanded final with
    | case1 openNames naming text split =>
      rw [nested_of_none split] at result
      cases result
      exact .plain split
    | case2 openNames naming text before token after split isOpen =>
      rw [nested_of_some split, if_pos isOpen] at result
      cases result
    | case3 openNames naming text before token after split fresh deep =>
      rw [nested_of_some split, if_neg fresh, if_pos deep] at result
      cases result
    | case4 openNames naming text before token after split fresh shallow unknown =>
      rw [nested_of_some split, if_neg fresh, if_neg shallow, unknown] at result
      cases result
    | case5 openNames naming text before token after split fresh shallow body found ihBody
        ihAfter =>
      rw [nested_of_some split, if_neg fresh, if_neg shallow, found] at result
      obtain ⟨⟨group, entry⟩, entered, result⟩ := bind_eq_ok result
      obtain ⟨⟨inner, middle⟩, inside, result⟩ := bind_eq_ok result
      obtain ⟨⟨later, last⟩, behind, finished⟩ := bind_eq_ok result
      cases finished
      exact .token split fresh (by omega) found entered (ihBody _ inside) (ihAfter _ behind)
  · intro nests
    induction nests with
    | plain split => exact nested_of_none split
    | token split fresh shallow found entered _ _ inside behind =>
      rw [nested_of_some split, if_neg fresh, if_neg (by omega), found]
      simp only [entered, bind, Except.bind, inside, behind]
      rfl

theorem run_eq_ok_iff {library : Library} {namedOnly : Bool} {maxDepth : Nat}
    {frames : List Frame} {out finished : Output} :
    run library namedOnly maxDepth frames out = .ok finished ↔
      Runs library namedOnly maxDepth frames out finished := by
  constructor
  · intro ran
    induction frames, out using run.induct library namedOnly maxDepth with
    | case1 out =>
      rw [run] at ran
      cases ran
      exact .done
    | case2 out name rest outer split emitted ih =>
      rw [run_of_none split] at ran
      exact .leave split (ih ran)
    | case3 out name rest outer before token after split openNames e found =>
      rw [run_of_some split, show openNamesOf _ = openNames from rfl, found] at ran
      cases ran
    | case4 out name rest outer before token after split openNames text found e opened =>
      rw [run_of_some split, show openNamesOf _ = openNames from rfl, found] at ran
      simp only [opened] at ran
      cases ran
    | case5 out name rest outer before token after split openNames text found entered opened ih =>
      rw [run_of_some split, show openNamesOf _ = openNames from rfl, found] at ran
      simp only [opened] at ran
      exact .enter split found opened (ih ran)
  · intro runs
    induction runs with
    | done => rw [run]
    | leave split _ onward => rw [run_of_none split, onward]
    | enter split found opened _ onward => rw [run_of_some split, found]; simp only [opened, onward]

/-- The result of an expansion is that of a run to its end. -/
theorem expand_eq_ok_iff [Regex.Engine] {library : Library} {expression : String} {namedOnly : Bool}
    {maxDepth : Nat} {result : Expansion} :
    library.expand expression namedOnly maxDepth = .ok result ↔
      ∃ finished, Runs library namedOnly maxDepth [⟨none, expression.toList⟩] {} finished ∧
        ofOutput finished = result := by
  simp only [← run_eq_ok_iff]
  rw [Library.expand_eq_run]
  cases run library namedOnly maxDepth [⟨none, expression.toList⟩] {} with
  | error e => simp [Except.map]
  | ok finished => simp [Except.map]

/-! ### Frames and calls -/

/-- What is named by what has been emitted. -/
def Output.naming (out : Output) : Naming := ⟨out.captures, out.fieldHints⟩

/-- The names that a run keeps in use are those of the recursion. -/
theorem Output.freshGroup_used (out : Output) (encoded : String) :
    freshGroup out.used encoded = freshGroup (namesOf out.captures) encoded :=
  freshGroup_congr (fun name => (out.inStep name).trans mem_namesOf.symm) encoded

/-- The names in use once the head of a group has been emitted. -/
def usedWith (used : TreeSet String) : Option String → TreeSet String
  | none => used
  | some group => used.insert group

/-- Emitting the head of a group names what the recursion names. -/
theorem openToken_eq (out : Output) (token : Token) (namedOnly : Bool) :
    (out.openToken token namedOnly).map (fun entered =>
        (entered.pieces, entered.naming, entered.used)) =
      (out.naming.enter token namedOnly).map fun (group, naming) =>
        (.opening token group :: out.pieces, naming, usedWith out.used group) := by
  unfold Output.openToken Naming.enter
  cases token.fieldName? namedOnly with
  | none => rfl
  | some field =>
    cases reserved : FieldName.isReserved field with
    | true => simp [Except.map, reserved]
    | false =>
      cases token.type <;>
        simp [Except.map, reserved, allocate, usedWith, out.freshGroup_used, Output.naming]

theorem enter_of_openToken {out entered : Output} {token : Token} {namedOnly : Bool}
    (opened : out.openToken token namedOnly = .ok entered) :
    ∃ group, out.naming.enter token namedOnly = .ok (group, entered.naming) ∧
      entered.pieces = .opening token group :: out.pieces ∧
      entered.used = usedWith out.used group := by
  have whole := openToken_eq out token namedOnly
  rw [opened] at whole
  cases named : out.naming.enter token namedOnly with
  | error e => rw [named] at whole; cases whole
  | ok pair =>
    rw [named] at whole
    obtain ⟨pieces, rest⟩ := Prod.mk.inj (Except.ok.inj whole)
    obtain ⟨naming, used⟩ := Prod.mk.inj rest
    exact ⟨pair.1, by rw [naming], pieces, used⟩

theorem enter_of_openToken_error {out : Output} {token : Token} {namedOnly : Bool} {e : Error}
    (failed : out.openToken token namedOnly = .error e) :
    out.naming.enter token namedOnly = .error e := by
  have whole := openToken_eq out token namedOnly
  rw [failed] at whole
  cases named : out.naming.enter token namedOnly with
  | error e' => rw [named] at whole; cases whole; rfl
  | ok pair => rw [named] at whole; cases whole

/-- What a run does at a token, in the terms of the recursion. The open names are distinct since a
    circle is refused, and all frames but the outermost have one. -/
theorem run_token {library : Library} {namedOnly : Bool} {maxDepth : Nat} {name : Option String}
    {rest before after : List Char} {token : Token} {outer : List Frame} {names : List String}
    (out : Output) (split : Token.first? rest = some ⟨before, token, after⟩)
    (opened : openNamesOf (⟨name, rest⟩ :: outer) = names) (distinct : names.Nodup)
    (named : names.length = outer.length) :
    run library namedOnly maxDepth (⟨name, rest⟩ :: outer) out =
      if token.pattern ∈ names.reverse then
        .error (.cyclicPattern (names.reverse.dropWhile (· != token.pattern) ++ [token.pattern]))
      else if maxDepth ≤ names.reverse.length then .error (.depthExceeded maxDepth)
      else
        match library.lookup? token.pattern with
        | none => .error (.unknownPattern token.pattern)
        | some text =>
          match (out.emit (.text before)).openToken token namedOnly with
          | .error e => .error e
          | .ok entered =>
            run library namedOnly maxDepth
              (⟨some token.pattern, text.toList⟩ :: ⟨name, after⟩ :: outer) entered := by
  rw [run_of_some split, opened, body, ← named, List.length_reverse]
  by_cases isOpen : token.pattern ∈ names
  · rw [if_pos (List.contains_iff_mem.2 isOpen), if_pos (List.mem_reverse.2 isOpen),
      Library.circle_eq distinct isOpen]
  · simp only [List.contains_iff_mem, List.mem_reverse, isOpen, ↓reduceIte]
    by_cases deep : maxDepth ≤ names.length
    · simp only [deep, ↓reduceIte]
    · simp only [deep, ↓reduceIte]
      cases library.lookup? token.pattern <;> rfl

/-- The parenthesis that ends the body of a pattern; the expression itself has none. -/
def closer (name : Option String) : List Char := if name.isSome then ")".toList else []

/-- How a run goes on from a frame, given what the recursion makes of its text: with the same
    error, or with the frames around it once the expansion and a parenthesis are emitted. -/
def Follows (library : Library) (namedOnly : Bool) (maxDepth : Nat) (frame : Frame)
    (outer : List Frame) (out : Output) : Except Error (List Char × Naming) → Prop
  | .error e => run library namedOnly maxDepth (frame :: outer) out = .error e
  | .ok (text, naming) => ∃ (pieces : List Piece) (left : Output),
      pieces.reverse.flatMap Piece.chars = text ++ closer frame.name ∧
      left.pieces = pieces ++ out.pieces ∧ left.naming = naming ∧
      run library namedOnly maxDepth (frame :: outer) out = run library namedOnly maxDepth outer left

@[simp] theorem chars_text (cs : List Char) : (Piece.text cs).chars = cs := rfl

@[simp] theorem chars_closing : Piece.closing.chars = ")".toList := rfl

@[simp] theorem chars_opening (token : Token) (group : Option String) :
    (Piece.opening token group).chars = head group := by
  cases group with
  | none => rfl
  | some group => simp [Piece.chars, head]

/-- A group around an expansion, and the expansion of what follows it, together. -/
theorem Follows.group {library : Library} {namedOnly : Bool} {maxDepth : Nat}
    {name : Option String} {rest text after before inner : List Char} {pattern : String}
    {token : Token} {group : Option String} {outer : List Frame} {out entered : Output}
    {naming : Naming} {result : Except Error (List Char × Naming)}
    (step : run library namedOnly maxDepth (⟨name, rest⟩ :: outer) out =
      run library namedOnly maxDepth (⟨some pattern, text⟩ :: ⟨name, after⟩ :: outer) entered)
    (emitted : entered.pieces = .opening token group :: .text before :: out.pieces)
    (inside : Follows library namedOnly maxDepth ⟨some pattern, text⟩ (⟨name, after⟩ :: outer)
      entered (.ok (inner, naming)))
    (later : ∀ left : Output, left.naming = naming →
      Follows library namedOnly maxDepth ⟨name, after⟩ outer left result) :
    Follows library namedOnly maxDepth ⟨name, rest⟩ outer out
      (result.map fun (rear, naming) =>
        (before ++ head group ++ inner ++ ")".toList ++ rear, naming)) := by
  obtain ⟨pieces, left, chars, added, named, leave⟩ := inside
  have goOn := later left named
  cases result with
  | error e => exact step.trans (leave.trans goOn)
  | ok pair =>
    obtain ⟨rearPieces, rearLeft, rearChars, rearAdded, rearNamed, finish⟩ := goOn
    have innerChars : pieces.reverse.flatMap Piece.chars = inner ++ ")".toList := chars
    refine ⟨rearPieces ++ pieces ++ [.opening token group, .text before], rearLeft, ?_, ?_,
      rearNamed, by rw [step, leave, finish]⟩
    · rw [List.reverse_append, List.reverse_append, List.flatMap_append, List.flatMap_append,
        rearChars, innerChars]
      simp
    · rw [rearAdded, added, emitted]
      simp

/-- A run from a frame does what the recursion does with the frame's text. -/
theorem run_frame (library : Library) (namedOnly : Bool) (maxDepth : Nat) (frame : Frame)
    (outer : List Frame) (out : Output) (distinct : (openNamesOf (frame :: outer)).Nodup)
    (named : (openNamesOf (frame :: outer)).length = outer.length) :
    Follows library namedOnly maxDepth frame outer out
      (nested library namedOnly maxDepth (openNamesOf (frame :: outer)).reverse out.naming
        frame.rest) := by
  obtain ⟨name, rest⟩ := frame
  generalize opened : (openNamesOf (⟨name, rest⟩ :: outer)).reverse = names
  generalize given : out.naming = naming
  -- A body is expanded with one frame more around it and more emitted, so both stay general.
  induction names, naming, rest using nested.induct library maxDepth generalizing name outer out
    with
  | case1 names naming rest split =>
    subst given
    rw [nested_of_none split]
    cases name with
    | none =>
      exact ⟨[.text rest], out.emit (.text rest), by simp [closer], rfl, rfl, run_of_none split⟩
    | some name =>
      exact ⟨[.closing, .text rest], (out.emit (.text rest)).emit .closing, by simp [closer], rfl,
        rfl, run_of_none split⟩
  | case2 names naming rest before token after split isOpen =>
    subst opened
    rw [nested_of_some split, if_pos isOpen, Follows, run_token out split rfl distinct named,
      if_pos isOpen]
  | case3 names naming rest before token after split fresh deep =>
    subst opened
    rw [nested_of_some split, if_neg fresh, if_pos deep, Follows,
      run_token out split rfl distinct named, if_neg fresh, if_pos deep]
  | case4 names naming rest before token after split fresh shallow unknown =>
    subst opened
    rw [nested_of_some split, if_neg fresh, if_neg shallow, unknown, Follows,
      run_token out split rfl distinct named, if_neg fresh, if_neg shallow, unknown]
  | case5 names naming rest before token after split fresh shallow text found ihBody ihAfter =>
    subst opened given
    have absent : token.pattern ∉ openNamesOf (⟨name, rest⟩ :: outer) := by simpa using fresh
    have step : run library namedOnly maxDepth (⟨name, rest⟩ :: outer) out = _ :=
      run_token out split rfl distinct named
    rw [if_neg fresh, if_neg shallow, found] at step
    rw [nested_of_some split, if_neg fresh, if_neg shallow, found]
    cases opened : (out.emit (.text before)).openToken token namedOnly with
    | error e =>
      have refused := enter_of_openToken_error opened
      change out.naming.enter token namedOnly = .error e at refused
      rw [opened] at step
      rw [refused]
      exact step
    | ok entered =>
      obtain ⟨group, entry, emitted, _⟩ := enter_of_openToken opened
      change out.naming.enter token namedOnly = .ok (group, entered.naming) at entry
      rw [opened] at step
      rw [entry]
      have inside := ihBody entered.naming (⟨name, after⟩ :: outer) entered
        (some token.pattern) (List.nodup_cons.2 ⟨absent, distinct⟩) (congrArg (· + 1) named)
        (List.reverse_cons ..) rfl
      cases innerResult : nested library namedOnly maxDepth
        ((openNamesOf (⟨name, rest⟩ :: outer)).reverse ++ [token.pattern]) entered.naming
          text.toList with
      | error e =>
        rw [innerResult] at inside
        simp only [bind, Except.bind, innerResult]
        exact step.trans inside
      | ok pair =>
        obtain ⟨inner, naming⟩ := pair
        rw [innerResult] at inside
        have later := fun left => ihAfter naming outer left name distinct named rfl
        have whole := Follows.group step emitted inside later
        simp only [bind, Except.bind, innerResult]
        cases laterResult : nested library namedOnly maxDepth
          (openNamesOf (⟨name, rest⟩ :: outer)).reverse naming after with
        | error e => rw [laterResult] at whole; exact whole
        | ok pair => rw [laterResult] at whole; exact whole

/-- Expanding an expression does what the recursion does. -/
theorem expand_nested [Regex.Engine] (library : Library) (expression : String) (namedOnly : Bool)
    (maxDepth : Nat) :
    match nested library namedOnly maxDepth [] {} expression.toList with
    | .error e => library.expand expression namedOnly maxDepth = .error e
    | .ok (text, naming) => ∃ result, library.expand expression namedOnly maxDepth = .ok result ∧
        result.source = .ofList text ∧ result.captures = naming.captures ∧
        result.fieldHints = naming.fieldHints := by
  have whole := run_frame library namedOnly maxDepth ⟨none, expression.toList⟩ [] {}
    List.nodup_nil rfl
  rw [Library.expand_eq_run]
  change Follows _ _ _ _ _ _ (nested library namedOnly maxDepth [] {} expression.toList) at whole
  cases result : nested library namedOnly maxDepth [] {} expression.toList with
  | error e =>
    rw [result] at whole
    simp only [Follows] at whole
    simp only [whole, Except.map]
  | ok pair =>
    obtain ⟨text, naming⟩ := pair
    rw [result] at whole
    obtain ⟨pieces, left, chars, added, named, leave⟩ := whole
    rw [run] at leave
    refine ⟨_, by rw [leave]; rfl, ?_, congrArg Naming.captures named,
      congrArg Naming.fieldHints named⟩
    simpa [ofOutput, source, closer, added] using congrArg String.ofList chars

/-- What the tokens of an expression have named. -/
def naming (expansion : Expansion) : Naming := ⟨expansion.captures, expansion.fieldHints⟩

/-- Where an expression is expanded, the recursion gives its regular expression, and names the
    same. -/
theorem nested_of_expand [Regex.Engine] {library : Library} {expression : String} {namedOnly : Bool}
    {maxDepth : Nat} {result : Expansion}
    (expanded : library.expand expression namedOnly maxDepth = .ok result) :
    nested library namedOnly maxDepth [] {} expression.toList =
      .ok (result.source.toList, result.naming) := by
  have whole := expand_nested library expression namedOnly maxDepth
  cases outcome : nested library namedOnly maxDepth [] {} expression.toList with
  | error e =>
    rw [outcome] at whole
    cases expanded.symm.trans whole
  | ok pair =>
    rw [outcome] at whole
    obtain ⟨result', expanded', source, captures, fieldHints⟩ := whole
    obtain rfl : result' = result := Except.ok.inj (expanded'.symm.trans expanded)
    rw [source, String.toList_ofList, naming, captures, fieldHints]

/-- Expansion by frames is expansion by recursion: it fails where the recursion fails and with
    the same error, and else gives the same regular expression and names the same. -/
theorem expand_eq_ofNested [Regex.Engine] (library : Library) (expression : String) (namedOnly : Bool)
    (maxDepth : Nat) :
    (library.expand expression namedOnly maxDepth).map
        (fun expansion => (expansion.source, expansion.naming)) =
      ofNested library expression namedOnly maxDepth := by
  have whole := expand_nested library expression namedOnly maxDepth
  unfold ofNested
  cases result : nested library namedOnly maxDepth [] {} expression.toList with
  | error e =>
    rw [result] at whole
    simp only at whole
    rw [whole]; rfl
  | ok pair =>
    rw [result] at whole
    obtain ⟨expansion, expanded, source, captures, fieldHints⟩ := whole
    simp only [expanded, Except.map, source, naming, captures, fieldHints]

end LogSift.Expansion
