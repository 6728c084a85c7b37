import LogSift.Proofs.Declared
import LogSift.Proofs.Listed
import LogSift.Proofs.Readers

/-!
Bodies behind references. A reference puts a group around the body of its pattern, and the parenthesis
that closes the group keeps its meaning behind any body that is an expression by itself, unless the body
ends within a comment, which swallows the parenthesis (`compile_reference_iff`).
-/

namespace LogSift

namespace Regex.Reader

variable {cs : List Char} {expr : Expr} {final : Reader}

/-- A text ends within a comment: what is put behind it on its last line is not read. -/
def OpenComment (cs : List Char) : Prop := ∀ line, '\n' ∉ line → read (cs ++ line) = read cs

/-- How deeply the parts of an expression are nested. -/
def nesting (cs : List Char) : Except Error Nat :=
  (whole { rest := cs }).map fun r => r.level.close.height

/-- A text as the body of a group. -/
def spliced (cs : List Char) : List Char := ['(', '?', ':'] ++ cs ++ [')']

/-- What is around a text that is the body of a group. -/
def around (capture : Option (Nat × Option String)) : List OpenGroup := [⟨capture, {}, {}⟩]

/-- The expression of a group. -/
def grouped (capture : Option (Nat × Option String)) (body : Expr) : Expr :=
  match capture with
  | none => body
  | some (index, name) => .capture index name body

theorem whole_spliced (cs : List Char) :
    whole { rest := spliced cs } = (amid { rest := cs } (cs ++ [')']) (around none)).whole := by
  have begun : ({} : Flags).skip (spliced cs) = '(' :: '?' :: ':' :: (cs ++ [')']) := rfl
  rw [whole_of_skip_eq_cons begun]
  rfl

theorem whole_nil (r : Reader) (bottom : List OpenGroup) :
    (r.amid [] bottom).whole = .ok (r.amid [] bottom) := by
  have none : (r.amid [] bottom).flags.skip (r.amid [] bottom).rest = [] :=
    List.suffix_nil.1 (Flags.steady_skip r.flags []).suffix
  exact whole_of_skip_eq_nil none

theorem skip_closing (flags : Flags) (more : List Char) :
    flags.skip (')' :: more) = ')' :: more := by
  have none : flags.skip [] = [] := List.suffix_nil.1 (Flags.steady_skip flags []).suffix
  rcases (Flags.steady_skip flags []).last none with ends | ⟨opened, _⟩
  · exact ends more
  · exact absurd opened not_openLine_nil

theorem whole_closing (r : Reader) (bottom : List OpenGroup) :
    (r.amid [')'] bottom).whole = (r.amid [')'] bottom).closeGroup [] >>= whole := by
  have begun : (r.amid [')'] bottom).flags.skip (r.amid [')'] bottom).rest = [')'] :=
    skip_closing r.flags []
  exact whole_of_skip_eq_cons begun

/-- A reader behind the group of a text that another one has read. -/
def behind (r : Reader) (capture : Option (Nat × Option String)) : Reader :=
  let body := r.level.close
  { rest := [], level := ({} : Level).push ⟨grouped capture body.expr, body.height + 1, false⟩
    groups := r.groups, names := r.names }

theorem whole_around {final : Reader} (closed : final.outer = [])
    (capture : Option (Nat × Option String)) :
    (final.amid [')'] (around capture)).whole = .ok (final.behind capture) := by
  rw [whole_closing, closeGroup]
  simp only [amid, closed, around, List.nil_append]
  exact whole_nil (final.behind capture) []

/-- What a group and nothing else is read as. -/
theorem finish_behind (r : Reader) (capture : Option (Nat × Option String)) :
    (r.behind capture).finish = if maxHeight < r.level.close.height + 1 then .error .tooDeep
      else .ok (grouped capture r.level.close.expr) := by
  simp [finish, behind, Level.push, Level.close, Level.branch, Level.heightOf, Expr.seqAll]

/-- A text that is read goes on within a group as it does by itself. A parenthesis behind it is read as
    such, or the text ends within a comment. -/
theorem read_spliced (read : Reader.read cs = .ok expr) :
    OpenComment cs ∧ OpenLine cs ∧ Reader.read (spliced cs) = .error .unclosedGroup ∨
    ¬ OpenComment cs ∧ (nesting cs = .ok maxHeight → Reader.read (spliced cs) = .error .tooDeep) ∧
      (nesting cs ≠ .ok maxHeight → Reader.read (spliced cs) = .ok expr) := by
  have whole_read := read
  rw [read_eq] at read
  obtain ⟨final, gone, finished⟩ := bind_eq_ok read
  obtain ⟨closed, shallow, told⟩ := finish_eq_ok_iff.1 finished
  have nested : nesting cs = .ok final.level.close.height := by rw [nesting, gone]; rfl
  rcases (steady_whole gone).last rfl with ends | ⟨opened, swallows⟩
  · have ends := ends []
    refine .inr ⟨fun opened => ?_, ?_⟩
    · -- A comment would swallow the parenthesis, which fails here for want of a group to close.
      have again := (opened [')'] (by decide)).trans whole_read
      have apart := ends []
      rw [whole_closing, closeGroup] at apart
      simp only [amid, closed, List.append_nil] at apart
      rw [read_eq, apart] at again
      cases again
    · have all : Reader.read (spliced cs) = (final.behind none).finish := by
        rw [read_eq, whole_spliced, ends (around none), whole_around closed]
        rfl
      rw [nested, all, finish_behind]
      constructor
      · intro deepest
        have deepest : final.level.close.height = maxHeight := Except.ok.inj deepest
        rw [if_pos (by omega)]
      · intro apart
        have apart : final.level.close.height ≠ maxHeight := fun same => apart (congrArg _ same)
        rw [if_neg (by omega)]
        exact congrArg _ told
  · -- The text is at its end within a comment, which goes on until a line ends.
    refine .inl ⟨fun line single => ?_, opened, ?_⟩
    · have all := swallows line single []
      rw [whole_nil] at all
      have same : final.amid [] [] = final := by
        have none := rest_of_whole gone
        simp [amid, ← none]
      rw [whole_read, read_eq]
      have all : whole { rest := cs ++ line } = .ok final := all.trans (congrArg _ same)
      rw [all]
      exact finished
    · have all := swallows [')'] (by decide) (around none)
      rw [whole_nil] at all
      rw [read_eq, whole_spliced, all]
      simp [bind, Except.bind, finish, amid, around]

end Regex.Reader

namespace Matcher

open Regex.Reader (OpenComment nesting maxHeight spliced)

variable {library : Library} {name body : String} {namedOnly mode : Bool} {settings : Settings}
  {matcher : Matcher} {regex : Regex}

/-- Two matchers that search with the same program, and whose groups stand for the same, answer the
    same to every question. -/
theorem answerQuery_eq {other : Matcher} (code : other.regex.code = matcher.regex.code)
    (groups : other.regex.groups = matcher.regex.groups) (captures : other.captures = matcher.captures)
    (tally : Tally) (query : Query) (input : Input) :
    other.answerQuery tally query input = matcher.answerQuery tally query input := by
  have texts : other.regex.matchText? = matcher.regex.matchText? := by
    funext text
    simp only [Regex.matchText?, Regex.match?, code, groups]
  have bytes : other.regex.matchBytes? = matcher.regex.matchBytes? := by
    funext bytes
    simp only [Regex.matchBytes?, Regex.match?, code, groups]
  cases query <;> cases input <;>
    simp only [answerQuery, test, testBytes, parse, parseBytes, parseTyped, parseTypedBytes, texts,
      bytes, fields, values, winners, present, captures]

theorem first?_of_all (tokenless : Token.all body = []) : Token.first? body.toList = none := by
  cases split : Token.first? body.toList with
  | none => rfl
  | some found =>
    have some : Token.tokens body.toList = found.token :: Token.tokens found.after :=
      Token.tokens_of_some split
    cases some.symm.trans tokenless

/-- What is put in the place of a reference to a body without tokens. -/
theorem nests_reference {maxDepth : Nat} (word : Token.IsName name) (deep : 0 < maxDepth)
    (tokenless : Token.first? body.toList = none) :
    Expansion.Nests (library.insert name body) true maxDepth [] {}
      (Token.reference name).toList (spliced body.toList) {} := by
  have found : (library.insert name body).lookup? name = some body := by
    rw [Library.lookup?_insert, if_pos rfl]
  have entered : Expansion.Naming.enter {} ⟨name, none, none⟩ true = .ok (none, {}) := rfl
  have nests : Expansion.Nests (library.insert name body) true maxDepth [] {}
      (Token.reference name).toList _ {} :=
    .token (Token.first?_reference word) List.not_mem_nil deep found entered (.plain tokenless)
      (.plain rfl)
  simpa [spliced, Expansion.head] using nests

/-- What does not compile once it is known how the expression is expanded. -/
theorem compile_error_of_nests [Regex.Engine]
    {expression : String} {text : List Char} {final : Expansion.Naming}
    {e : Regex.Error}
    (nests : Expansion.Nests library namedOnly settings.maxDepth [] {} expression.toList text final)
    (read : Regex.Reader.read text = .error e) :
    compile library expression namedOnly settings =
      .error (.invalidExpression (Regex.Engine.explain (.ofList text) e)) := by
  have whole := Expansion.expand_nested library expression namedOnly settings.maxDepth
  rw [Expansion.nested_eq_ok_iff.2 nests] at whole
  obtain ⟨expansion, expanded, source, _⟩ := whole
  simp [compile, expanded, ofExpansion, Regex.ofString?, source, read, bind, Except.bind]

/-- The matcher of an expression that expands to a text, which is read as a tree. -/
def reading (expression : String) (namedOnly : Bool) (text : List Char)
    (naming : Expansion.Naming) (expr : Regex.Expr) : Matcher :=
  let regex : Regex := ⟨.ofList text, Regex.groupNames expr.groups, expr.program⟩
  ⟨expression, namedOnly, regex, capturesOf ⟨[], naming.captures, naming.fieldHints⟩ regex⟩

/-- An expression compiles if and only if what it expands to is read, and is not too large. -/
theorem compile_eq_ok_iff_read [Regex.Engine]
    {expression : String} {text : List Char} {final : Expansion.Naming}
    (nests : Expansion.Nests library namedOnly settings.maxDepth [] {} expression.toList text final) :
    compile library expression namedOnly settings = .ok matcher ↔
      ∃ expr, Regex.Reader.read text = .ok expr ∧
        Regex.Engine.fits expr (settings.sizeLimit.getD Regex.Expr.defaultLimit) = true ∧
        matcher = reading expression namedOnly text final expr := by
  have whole := Expansion.expand_nested library expression namedOnly settings.maxDepth
  rw [Expansion.nested_eq_ok_iff.2 nests] at whole
  obtain ⟨expansion, expanded, source, captures, fieldHints⟩ := whole
  have stands (regex : Regex) : capturesOf expansion regex =
      capturesOf ⟨[], final.captures, final.fieldHints⟩ regex := by
    simp only [capturesOf, Expansion.fieldOf, Expansion.hintOf?, captures, fieldHints]
  rw [compile_eq_ok_iff, expanded]
  constructor
  · rintro ⟨expansion, regex, same, read, rfl⟩
    cases same
    rw [source, Regex.ofString?_eq_ok_iff, String.toList_ofList] at read
    obtain ⟨expr, parsed, fits, rfl⟩ := read
    exact ⟨expr, parsed, fits, by rw [stands]; rfl⟩
  · rintro ⟨expr, parsed, fits, rfl⟩
    refine ⟨expansion, _, rfl, ?_, by rw [stands]; rfl⟩
    rw [source, Regex.ofString?_eq_ok_iff, String.toList_ofList]
    exact ⟨expr, parsed, fits, rfl⟩

/-- A reference to a body that compiles by itself compiles if and only if the body does not end within a
    comment and is not nested as deeply as anything may be. Its matcher answers every question as that of
    the body does. The error for a body that ends within a comment, which has a number sign on its last
    line, is that of an open group. -/
theorem compile_reference_iff [Regex.Engine] (library : Library) (name body : String) (mode : Bool)
    (settings : Settings) (matcher : Matcher) (word : Token.IsName name)
    (deep : 0 < settings.maxDepth) (tokenless : Token.all body = [])
    (compiled : compile library body mode settings = .ok matcher) :
    ((∃ behind, compile (library.insert name body) (Token.reference name) true settings = .ok behind) ↔
      ¬ OpenComment body.toList ∧ nesting body.toList ≠ .ok maxHeight) ∧
    (∀ behind, compile (library.insert name body) (Token.reference name) true settings = .ok behind →
      ∀ tally query input,
        behind.answerQuery tally query input = matcher.answerQuery tally query input) ∧
    (OpenComment body.toList → Regex.OpenLine body.toList ∧
      compile (library.insert name body) (Token.reference name) true settings =
        .error (.invalidExpression
          (Regex.Engine.explain (.ofList (spliced body.toList)) .unclosedGroup))) := by
  have none : Token.first? body.toList = none := first?_of_all tokenless
  obtain ⟨expr, read, fits, rfl⟩ := (compile_eq_ok_iff_read (.plain none)).1 compiled
  have nests : Expansion.Nests (library.insert name body) true settings.maxDepth [] {} _ _ {} :=
    nests_reference word deep none
  rcases Regex.Reader.read_spliced read with
    ⟨commented, opened, failed⟩ | ⟨ends, tooDeep, within⟩
  · have refused := compile_error_of_nests nests failed
    refine ⟨iff_of_false ?_ fun told => told.1 commented, ?_, fun _ => ⟨opened, refused⟩⟩
    · rintro ⟨behind, found⟩
      cases refused.symm.trans found
    · intro behind found
      cases refused.symm.trans found
  · have shallow {behind} (found : compile (library.insert name body) (Token.reference name) true
        settings = .ok behind) : nesting body.toList ≠ .ok maxHeight := by
      intro deepest
      cases (compile_error_of_nests nests (tooDeep deepest)).symm.trans found
    refine ⟨⟨?_, ?_⟩, fun behind found => ?_, fun commented => absurd commented ends⟩
    · rintro ⟨behind, found⟩
      exact ⟨ends, shallow found⟩
    · rintro ⟨_, apart⟩
      exact ⟨_, (compile_eq_ok_iff_read nests).2 ⟨expr, within apart, fits, rfl⟩⟩
    · obtain ⟨expr', read', _, rfl⟩ := (compile_eq_ok_iff_read nests).1 found
      cases read'.symm.trans (within (shallow found))
      exact answerQuery_eq rfl rfl rfl

/-- A library without definitions. -/
def isolated : Library := Library.withBuiltin false

theorem isName_pattern : Token.IsName "PATTERN" := by
  have letters : "PATTERN".toList.all Unicode.isWord = true := by decide
  exact ⟨by decide, List.all_eq_true.1 letters⟩

/-- A body without tokens compiles if it is read. -/
theorem compile_of_reads [Regex.Engine]
    {library : Library} {body : String} (tokenless : Token.all body = [])
    (reads : (Regex.ofString? body).toOption.isSome = true) :
    ∃ matcher, compile library body true {} = .ok matcher := by
  cases read : Regex.ofString? body with
  | error e => simp [read, Except.toOption] at reads
  | ok regex =>
    obtain ⟨expr, told, fits, _⟩ := Regex.ofString?_eq_ok_iff.1 read
    have compiled : compile library body true {} = .ok _ :=
      (compile_eq_ok_iff_read (.plain (first?_of_all tokenless))).2 ⟨expr, told, fits, rfl⟩
    exact ⟨_, compiled⟩

/-- A line ends the comment before the parenthesis. -/
theorem compile_reference_line : ∃ matcher behind : Matcher,
    compile isolated "(?x)a # one\n" true {} = .ok matcher ∧
    compile (isolated.insert "PATTERN" "(?x)a # one\n") "%\x7bPATTERN\x7d" true {} = .ok behind ∧
    ∀ tally query input,
      behind.answerQuery tally query input = matcher.answerQuery tally query input := by
  have tokenless : Token.all "(?x)a # one\n" = [] := by decide +kernel
  obtain ⟨matcher, compiled⟩ : ∃ matcher, compile isolated "(?x)a # one\n" true {} = .ok matcher :=
    compile_of_reads tokenless (by decide +kernel)
  obtain ⟨compiles, answers, _⟩ :=
    compile_reference_iff isolated _ _ true {} matcher isName_pattern (by decide) tokenless compiled
  have ends : ¬ OpenComment "(?x)a # one\n".toList := by
    intro commented
    have unopened : (Regex.Reader.read ("(?x)a # one\n".toList ++ [')'])).toOption.isNone = true := by
      decide +kernel
    have read : (Regex.Reader.read "(?x)a # one\n".toList).toOption.isNone = false := by
      decide +kernel
    rw [commented [')'] (by decide), read] at unopened
    cases unopened
  have shallow : nesting "(?x)a # one\n".toList ≠ .ok maxHeight := by
    intro deepest
    have height : (nesting "(?x)a # one\n".toList).toOption = some 1 := by decide +kernel
    rw [deepest] at height
    cases height
  obtain ⟨behind, found⟩ := compiles.2 ⟨ends, shallow⟩
  exact ⟨matcher, behind, compiled, found, answers behind found⟩

/-- The end of the text ends the comment of a body, but not that of the reference to it. -/
theorem compile_reference_comment :
    Token.all "(?x)a # one" = [] ∧
    (∃ matcher, compile isolated "(?x)a # one" true {} = .ok matcher) ∧
    (nesting "(?x)a # one".toList).toOption = some 1 ∧
    compile (isolated.insert "PATTERN" "(?x)a # one") "%\x7bPATTERN\x7d" true {} =
      .error (.invalidExpression
        (Regex.Engine.explain (.ofList (spliced "(?x)a # one".toList)) .unclosedGroup)) := by
  have tokenless : Token.all "(?x)a # one" = [] := by decide +kernel
  have nests : Expansion.Nests (isolated.insert "PATTERN" "(?x)a # one") true 1000 [] {}
      "%\x7bPATTERN\x7d".toList (spliced "(?x)a # one".toList) {} :=
    nests_reference isName_pattern (by decide) (first?_of_all tokenless)
  have unclosed : Regex.Reader.read (spliced "(?x)a # one".toList) = .error .unclosedGroup := by
    have read : (match Regex.Reader.read (spliced "(?x)a # one".toList) with
      | .error e => e == .unclosedGroup
      | .ok _ => false) = true := by decide +kernel
    split at read
    · next e told => rw [told, eq_of_beq read]
    · cases read
  exact ⟨tokenless, compile_of_reads tokenless (by decide +kernel), by decide +kernel,
    compile_error_of_nests nests unclosed⟩

end Matcher

end LogSift
