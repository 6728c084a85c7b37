import LogSift.Proofs.Declared
import LogSift.Proofs.Installed
import LogSift.Proofs.Placeholder
import LogSift.Proofs.Validity

/-!
Errors by class. What keeps a matcher from being built is told apart from what goes wrong with an input:
a matcher that was built can only fail to convert the text of a field, by a hint that is no type or to
no value of the type (`Matcher.unconverted_of_typed`). Loads and validation have errors of their own
(`Library.documents_of_obey`).
-/

namespace LogSift

/-- An error that keeps a matcher from being built, and that does not blame the placeholder. -/
def Error.Compiling (e : Error) : Prop :=
  e.isCompileError = true ∧ ∀ placeholder, e ≠ .invalidPlaceholder placeholder

/-! ### Compilation -/

section Compilation

variable {library : Library} {expression : String} {namedOnly : Bool} {maxDepth : Nat}
  {settings : Settings} {e : Error}

theorem Expansion.Witness.compiling
    (witness : Expansion.Witness library expression namedOnly maxDepth e) : e.Compiling := by
  cases e with
  | unknownPattern | cyclicPattern | depthExceeded | reservedFieldName => exact ⟨rfl, nofun⟩
  | _ => exact witness.elim

theorem Expansion.compiling_of_expand [Regex.Engine]
    (failed : library.expand expression namedOnly maxDepth = .error e) : e.Compiling := by
  rcases Expansion.expand_cases library expression namedOnly maxDepth with
    ⟨result, expanded, _⟩ | ⟨found, failed', failure⟩
  · cases expanded.symm.trans failed
  · cases failed'.symm.trans failed
    exact failure.witness.compiling

theorem Matcher.compiling_of_compile [Regex.Engine]
    (failed : compile library expression namedOnly settings = .error e) : e.Compiling := by
  unfold compile at failed
  cases expanded : library.expand expression namedOnly settings.maxDepth with
  | error found =>
    rw [expanded] at failed
    cases failed
    exact Expansion.compiling_of_expand expanded
  | ok expansion =>
    rw [expanded] at failed
    have read : ofExpansion expression namedOnly expansion settings.sizeLimit = .error e := failed
    unfold ofExpansion at read
    split at read
    · cases read
    · cases read
      exact ⟨rfl, nofun⟩

/-- A step that compiles an expression, for the session itself or apart from it. -/
def Session.Step.Builds : Session.Step → Prop
  | .compile _ _ | .compileAsSet _ | .build _ _ _ => True
  | _ => False

theorem Session.compiling_of_step [Regex.Engine]
    {session : Session} {step : Session.Step} (builds : step.Builds)
    (failed : (session.step step).1 = .refused e) : e.Compiling := by
  have own {expression : String} {namedOnly : Bool}
      (failed : (session.compile expression namedOnly).1 = .refused e) : e.Compiling := by
    unfold Session.compile at failed
    split at failed
    · next refused =>
      cases failed
      exact Matcher.compiling_of_compile refused
    · cases failed
  have apart {name expression : String} {namedOnly : Bool}
      (failed : (session.build name expression namedOnly).1 = .refused e) : e.Compiling := by
    unfold Session.build at failed
    split at failed
    · next refused =>
      cases failed
      exact Matcher.compiling_of_compile refused
    · cases failed
  cases step with
  | compile expression namedOnly => exact own failed
  | compileAsSet expression => exact own failed
  | build name expression namedOnly => exact apart failed
  | _ => exact builds.elim

end Compilation

/-! ### Conversion -/

namespace Hint

variable {hint : Hint} {field raw word : String} {e : Error}

/-- The words that name types. -/
def words : List String := ["string", "int", "long", "double", "float", "bool", "boolean"]

theorem not_mem_words_of_ofWord (unsupported : ofWord word = .unsupported raw) : raw ∉ words := by
  unfold ofWord at unsupported
  split at unsupported
  · cases unsupported
  split at unsupported
  · cases unsupported
  split at unsupported
  · cases unsupported
  split at unsupported
  · cases unsupported
  cases unsupported
  simp_all [words]

/-- A conversion fails since the hint is no type, or since the text is no value of the type. -/
theorem convert_eq_error (failed : hint.convert field raw = .error e) :
    (∃ word, hint = .unsupported word ∧ e = .typeNotProvided field word) ∨
      ∃ reason, hint.word ∈ words ∧ e = .conversion field hint.word raw reason := by
  have blamed {α : Type} {read : Except Decimal.ReadError α} {make : α → Value}
      (failed : ((read.map make).mapError fun reason =>
        Error.conversion field hint.word raw reason.message) = .error e) :
      ∃ reason, e = .conversion field hint.word raw reason := by
    cases read with
    | error reason => cases failed; exact ⟨_, rfl⟩
    | ok value => cases failed
  cases hint with
  | text => cases failed
  | unsupported word => cases failed; exact .inl ⟨word, rfl, rfl⟩
  | int =>
    obtain ⟨reason, same⟩ := blamed failed
    exact .inr ⟨reason, by decide, same⟩
  | float =>
    obtain ⟨reason, same⟩ := blamed failed
    exact .inr ⟨reason, by decide, same⟩
  | bool =>
    obtain ⟨reason, same⟩ := blamed failed
    exact .inr ⟨reason, by decide, same⟩

end Hint

namespace Expansion

variable {library : Library} {expression : String} {namedOnly : Bool} {maxDepth : Nat}
  {expansion : Expansion} {group : String} {hint : Hint}

/-- Every hint is what a word of some token stands for. -/
theorem exists_ofWord_of_hintOf? [Regex.Engine]
    (expanded : library.expand expression namedOnly maxDepth = .ok expansion)
    (hinted : expansion.hintOf? group = some hint) : ∃ word, hint = .ofWord word := by
  obtain ⟨field, _, told⟩ := Option.bind_eq_some_iff.1 hinted
  rw [fieldHints_eq_declared? expanded, declared?] at told
  obtain ⟨token, _, declared⟩ := List.exists_of_findSome?_eq_some told
  rw [declares?] at declared
  split at declared
  · obtain ⟨word, _, rfl⟩ := Option.map_eq_some_iff.1 declared
    exact ⟨word, rfl⟩
  · cases declared

end Expansion

namespace Matcher

variable {library : Library} {expression : String} {namedOnly : Bool} {settings : Settings}
  {matcher : Matcher} {input : Input} {e : Error}

/-- The text that wins a field of an input; bytes are decoded. -/
def winningText? (matcher : Matcher) : Input → String → Option String
  | .text s, field => (matcher.parse s).result[field]?
  | .bytes bs, field => ((matcher.parseBytes bs).result[field]?).map Utf8.decodeLossy

/-- What goes wrong with an input: the hint of a field that has a text is no type, or the winning text
    of the field is no value of the type. -/
inductive Unconverted (matcher : Matcher) (input : Input) : Error → Prop where
  | unknown {field word raw : String} (won : matcher.winningText? input field = some raw)
      (unknown : word ∉ Hint.words) : Unconverted matcher input (.typeNotProvided field word)
  | improper {field word raw reason : String} (won : matcher.winningText? input field = some raw)
      (known : word ∈ Hint.words) :
      Unconverted matcher input (.conversion field word raw reason)

theorem Unconverted.not_isCompileError (unconverted : matcher.Unconverted input e) :
    e.isCompileError = false := by
  cases unconverted <;> rfl

/-- The hint that wins is one that a word of some token stands for. -/
theorem exists_ofWord_of_winningHint? [Regex.Engine] {α : Type} {groups : List (Option (List α))}
    {field : String} {hint : Hint}
    (compiled : compile library expression namedOnly settings = .ok matcher)
    (wins : matcher.winningHint? groups field = some hint) : ∃ word, hint = .ofWord word := by
  obtain ⟨expansion, regex, expanded, _, rfl⟩ := compile_eq_ok_iff.1 compiled
  obtain ⟨⟨capture, raw⟩, found, hinted⟩ := Option.bind_eq_some_iff.1 wins
  obtain ⟨group, _, rfl⟩ := mem_capturesOf.1 (mem_of_winner? found).1
  exact Expansion.exists_ofWord_of_hintOf? expanded hinted

/-- A matcher that was built fails only to convert what won. -/
theorem unconverted_of_typed [Regex.Engine]
    (compiled : compile library expression namedOnly settings = .ok matcher)
    (failed : matcher.typed input = .error e) : matcher.Unconverted input e := by
  have blamed {field raw : String} {hint : Option Hint}
      (won : matcher.winningText? input field = some raw)
      (proper : ∀ found, hint = some found → ∃ word, found = .ofWord word)
      (refused : Capture.convert ⟨field, hint⟩ raw = .error e) : matcher.Unconverted input e := by
    cases hint with
    | none => cases refused
    | some hint =>
      obtain ⟨word, same⟩ := proper hint rfl
      rcases Hint.convert_eq_error refused with ⟨_, unsupported, rfl⟩ | ⟨_, known, rfl⟩
      · exact .unknown won (Hint.not_mem_words_of_ofWord (same.symm.trans unsupported))
      · exact .improper won known
  have proper {α : Type} {matched : Option (List (Option (List α)))} {field : String} :
      ∀ hint, matched.bind (matcher.winningHint? · field) = some hint →
        ∃ word, hint = .ofWord word := by
    intro hint wins
    obtain ⟨groups, _, wins⟩ := Option.bind_eq_some_iff.1 wins
    exact exists_ofWord_of_winningHint? compiled wins
  cases input with
  | text s =>
    obtain ⟨field, raw, won, refused⟩ := (matcher.follows_text s).blames e failed
    exact blamed won proper refused
  | bytes bs =>
    obtain ⟨field, raw, won, refused⟩ := (matcher.follows_bytes bs).blames e failed
    exact blamed (congrArg (Option.map Utf8.decodeLossy) won) proper refused

end Matcher

namespace Session

variable {session : Session} {input : Input} {e : Error}

/-- The error of a reply. -/
def Reply.error? : Reply → Option Error
  | .refused e => some e
  | .matcher (.values (.error e)) => some e
  | _ => none

/-- What goes wrong where a session is asked about an input: it has no matcher, or the matcher cannot
    convert what won. -/
inductive Unanswered (session : Session) (input : Input) : Error → Prop where
  | notCompiled (absent : session.active = none) : Unanswered session input .notCompiled
  | unconverted {handle : Handle} {e : Error} (active : session.active = some handle)
      (unconverted : handle.matcher.Unconverted input e) : Unanswered session input e

theorem Unanswered.not_isCompileError (unanswered : session.Unanswered input e) :
    e.isCompileError = false := by
  cases unanswered with
  | notCompiled => rfl
  | unconverted _ unconverted => exact unconverted.not_isCompileError

/-- The matcher of a session was built. -/
theorem compiled_of_active [Regex.Engine]
    {settings : Settings} {definitions : List (String × String)}
    {steps : List Step} {handle : Handle}
    (active : ((opened settings definitions).run steps).active = some handle) :
    ∃ library expression namedOnly settings,
      Matcher.compile library expression namedOnly settings = .ok handle.matcher := by
  rcases (active_run _ _ _).1 active with ⟨_, _, _, _, installs, _⟩ | ⟨before, _⟩
  · cases installs with
    | compile compiled => exact ⟨_, _, _, _, compiled⟩
    | compileAsSet compiled => exact ⟨_, _, _, _, compiled⟩
  · cases before

theorem error?_ask {handle : Handle} {query : Matcher.Query}
    (failed : (session.ask handle (.query query input)).1.error? = some e) :
    handle.matcher.typed input = .error e := by
  have read {typed : Except Error (Std.TreeMap String Value)}
      (failed : (Reply.matcher (.values typed)).error? = some e) : typed = .error e := by
    cases typed with
    | error found => cases failed; rfl
    | ok values => cases failed
  rw [ask, Matcher.answer, Matcher.answerQuery_run] at failed
  cases query with
  | isMatch => cases failed
  | fields => cases input <;> cases failed
  | values => exact read failed

theorem unanswered_of_query [Regex.Engine]
    {settings : Settings} {definitions : List (String × String)}
    {steps : List Step} {query : Matcher.Query}
    (failed : (((opened settings definitions).run steps).step (.query query input)).1.error? =
      some e) : ((opened settings definitions).run steps).Unanswered input e := by
  cases active : ((opened settings definitions).run steps).active with
  | none =>
    rw [query_of_active_eq_none active] at failed
    cases query with
    | isMatch => cases failed
    | fields | values => cases failed; exact .notCompiled active
  | some handle =>
    rw [Session.step, active] at failed
    obtain ⟨library, expression, namedOnly, settings', compiled⟩ := compiled_of_active active
    exact .unconverted active (Matcher.unconverted_of_typed compiled (error?_ask failed))

end Session

/-! ### Libraries -/

namespace Library

variable {library : Library} {command : Command} {e : Error}

/-- The errors of commands: a load fails with the error of its format, or of the file; validation finds
    a name without definition or a circle; and an expression that cannot be expanded cannot be compiled. -/
inductive Documents : Command → Error → Prop where
  | listing {text content : String} {line : Nat} :
      Documents (.loadListing text) (.invalidDefinition line content)
  | file {bytes : Option (List UInt8)} {detail : String} : Documents (.loadFile bytes) (.io detail)
  | fileListing {bytes : List UInt8} {content : String} {line : Nat} :
      Documents (.loadFile (some bytes)) (.invalidDefinition line content)
  | yaml {text detail : String} : Documents (.loadYaml text) (.yaml detail)
  | json {text detail : String} : Documents (.loadJson text) (.json detail)
  | unknown {name : String} : Documents .validate (.unknownPattern name)
  | cyclic {path : List String} : Documents .validate (.cyclicPattern path)
  | expansion {expression : String} {namedOnly : Bool} {maxDepth : Nat} {e : Error}
      (compiling : e.Compiling) : Documents (.expand expression namedOnly maxDepth) e

theorem map_eq_error {α β : Type} {answer : Except Error α} {f : α → β}
    (failed : answer.map f = .error e) : answer = .error e := by
  cases answer with
  | error found => cases failed; rfl
  | ok value => cases failed

theorem readLines_eq_error {number : Nat} {lines : List (List Char)}
    (failed : Listing.readLines number lines = .error e) :
    ∃ line content, e = .invalidDefinition line content := by
  induction lines generalizing number with
  | nil => cases failed
  | cons first rest ih =>
    rw [Listing.readLines] at failed
    split at failed
    · exact ih failed
    · exact ih (map_eq_error failed)
    · cases failed
      exact ⟨_, _, rfl⟩

theorem loadListing_eq_error {text : String} (failed : library.loadListing text = .error e) :
    ∃ line content, e = .invalidDefinition line content :=
  readLines_eq_error (map_eq_error failed)

theorem fst_loaded_eq_error {answer : Except Error (Nat × Library)}
    (failed : (library.loaded answer).1 = .error e) : answer = .error e := by
  cases answer with
  | error found => cases failed; rfl
  | ok pair => cases failed

theorem loadFile_eq_error {bytes : Option (List UInt8)}
    (failed : library.loadFile bytes = .error e) : Documents (.loadFile bytes) e := by
  cases bytes with
  | none => cases failed; exact .file
  | some bytes =>
    rw [loadFile, Option.map_some] at failed
    cases decoded : Utf8.decodeText? bytes with
    | none => rw [decoded] at failed; cases failed; exact .file
    | some text =>
      rw [decoded] at failed
      obtain ⟨line, content, rfl⟩ := loadListing_eq_error failed
      exact .fileListing

theorem loadYaml_eq_error {text : String} (failed : library.loadYaml text = .error e) :
    ∃ detail, e = .yaml detail := by
  have read : readYaml text = .error e := map_eq_error failed
  unfold readYaml at read
  split at read
  · cases read
    exact ⟨_, rfl⟩
  · cases read
  · split at read
    · cases read
    · cases read
      exact ⟨_, rfl⟩

theorem loadJson_eq_error {text : String} (failed : library.loadJson text = .error e) :
    ∃ detail, e = .json detail := by
  have read : readJson text = .error e := map_eq_error failed
  unfold readJson at read
  split at read
  · cases read
  · cases read
    exact ⟨_, rfl⟩

theorem validate_eq_error (failed : library.validate = .error e) : Documents .validate e := by
  rcases library.validate_cases with ⟨found, fault, failed'⟩ | ⟨_, valid⟩
  · cases failed'.symm.trans failed
    rcases fault.of_roots with ⟨name, rfl, _⟩ | ⟨path, rfl, _⟩
    · exact .unknown
    · exact .cyclic
  · cases valid.symm.trans failed

/-- Every error of a command is one of its own. -/
theorem documents_of_obey [Regex.Engine]
    (failed : (library.obey command).1 = .error e) : Documents command e := by
  cases command with
  | loadListing text =>
    obtain ⟨line, content, rfl⟩ := loadListing_eq_error (fst_loaded_eq_error failed)
    exact .listing
  | loadFile bytes => exact loadFile_eq_error (fst_loaded_eq_error failed)
  | loadYaml text =>
    obtain ⟨detail, rfl⟩ := loadYaml_eq_error (fst_loaded_eq_error failed)
    exact .yaml
  | loadJson text =>
    obtain ⟨detail, rfl⟩ := loadJson_eq_error (fst_loaded_eq_error failed)
    exact .json
  | validate => exact validate_eq_error (map_eq_error failed)
  | expand expression namedOnly maxDepth =>
    exact .expansion (Expansion.compiling_of_expand (map_eq_error failed))
  | addTable name =>
    rw [obey] at failed
    split at failed
    · cases failed
    · cases failed
  | _ => cases failed

end Library

/-! ### All errors -/

/-- The placeholder can stand in the names of groups. What fails when an expression is compiled,
    wherever that is done, is a compile error, and does not blame the placeholder. What fails when an input
    is read is none: the matcher could not convert what won, or there is no matcher. Loads and
    validation have their own errors. -/
theorem errors_classified [Regex.Engine] :
    FieldName.checkPlaceholder FieldName.placeholder = .ok () ∧
    (∀ library expression namedOnly settings e,
      Matcher.compile library expression namedOnly settings = .error e → e.Compiling) ∧
    (∀ (session : Session) (step : Session.Step) e, step.Builds →
      (session.step step).1 = .refused e → e.Compiling) ∧
    (∀ library expression namedOnly settings matcher,
      Matcher.compile library expression namedOnly settings = .ok matcher → ∀ input e,
        matcher.typed input = .error e →
          e.isCompileError = false ∧ matcher.Unconverted input e) ∧
    (∀ settings definitions steps query input e,
      (((Session.opened settings definitions).run steps).step (.query query input)).1.error? =
        some e → e.isCompileError = false ∧
          ((Session.opened settings definitions).run steps).Unanswered input e) ∧
    ∀ library command e, (Library.obey library command).1 = .error e →
      Library.Documents command e := by
  refine ⟨FieldName.checkPlaceholder_placeholder, fun _ _ _ _ _ => Matcher.compiling_of_compile,
    fun _ _ _ => Session.compiling_of_step, ?_, ?_, fun _ _ _ => Library.documents_of_obey⟩
  · intro library expression namedOnly settings matcher compiled input e failed
    have unconverted := Matcher.unconverted_of_typed compiled failed
    exact ⟨unconverted.not_isCompileError, unconverted⟩
  · intro settings definitions steps query input e failed
    have unanswered := Session.unanswered_of_query failed
    exact ⟨unanswered.not_isCompileError, unanswered⟩

end LogSift
