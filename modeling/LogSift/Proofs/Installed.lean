import LogSift.Session

/-!
Which matcher a session has, after any run: the one that its latest successful compilation built,
from the library as it was then (`active_latest`). Failures, matchers that are built apart,
questions, and whatever is done to the library later leave it in place.
-/

namespace LogSift.Session

variable [Regex.Engine] {session start : Session} {step : Step} {steps : List Step} {handle other : Handle}

/-- A session that begins with the definitions of its settings and with further ones. Without
    those it is `ofSettings settings`. -/
def opened (settings : Settings) (definitions : List (String × String)) : Session :=
  ((ofSettings settings).step (.library (.defineAll definitions))).2

/-- A step compiles an expression for the session itself. -/
def Step.Compiles : Step → Prop
  | .compile _ _ | .compileAsSet _ => True
  | _ => False

/-- A step compiles an expression for the session itself, and is answered with success. -/
def Succeeds (session : Session) (step : Step) : Prop :=
  step.Compiles ∧ (session.step step).1 = .done

/-- What a step installs: the matcher that its expression makes with the library and the settings
    of the session, under the next number. -/
inductive Installs (session : Session) : Step → Handle → Prop where
  | compile {expression : String} {namedOnly : Bool} {matcher : Matcher}
      (compiled : Matcher.compile session.library expression namedOnly session.settings =
        .ok matcher) :
      Installs session (.compile expression namedOnly) ⟨session.tallies.length, matcher⟩
  | compileAsSet {expression : String} {matcher : Matcher}
      (compiled : Matcher.compile session.library expression session.settings.namedOnly
        session.settings = .ok matcher) :
      Installs session (.compileAsSet expression) ⟨session.tallies.length, matcher⟩

/-- No step of a run compiles with success. -/
def Uncompiled (start : Session) (steps : List Step) : Prop :=
  ∀ before step after, steps = before ++ step :: after → ¬ Succeeds (start.run before) step

/-- A step of a run installs the matcher, and no later one compiles with success. -/
def Latest (start : Session) (steps : List Step) (handle : Handle) : Prop :=
  ∃ before step after, steps = before ++ step :: after ∧
    Installs (start.run before) step handle ∧ Uncompiled (start.run (before ++ [step])) after

/-! ### One step -/

theorem step_of_installs (installs : Installs session step handle) :
    session.step step = (.done, { session with
      tallies := session.tallies ++ [{}]
      active := some handle }) := by
  cases installs with
  | compile compiled => simp only [Session.step, Session.compile, matcherOf, compiled, register]
  | compileAsSet compiled => simp only [Session.step, Session.compile, matcherOf, compiled, register]

theorem Installs.compiles (installs : Installs session step handle) : step.Compiles := by
  cases installs <;> trivial

theorem Installs.unique (installs : Installs session step handle)
    (others : Installs session step other) : handle = other := by
  have same := (step_of_installs installs).symm.trans (step_of_installs others)
  exact Option.some.inj (congrArg (·.2.active) same)

/-- A compilation for the session is refused and changes nothing, or it installs a matcher. -/
theorem step_of_compiles (session : Session) (compiles : step.Compiles) :
    (∃ e, session.step step = (.refused e, session)) ∨
      ∃ handle, Installs session step handle := by
  cases step with
  | compile expression namedOnly =>
    cases compiled : Matcher.compile session.library expression namedOnly session.settings with
    | error e => exact .inl ⟨e, by simp only [Session.step, Session.compile, matcherOf, compiled]⟩
    | ok matcher => exact .inr ⟨_, .compile compiled⟩
  | compileAsSet expression =>
    cases compiled : Matcher.compile session.library expression session.settings.namedOnly
        session.settings with
    | error e => exact .inl ⟨e, by simp only [Session.step, Session.compile, matcherOf, compiled]⟩
    | ok matcher => exact .inr ⟨_, .compileAsSet compiled⟩
  | _ => exact compiles.elim

/-- Any other step leaves the settings and the matcher of the session. -/
theorem step_of_not_compiles (session : Session) (apart : ¬ step.Compiles) :
    (session.step step).2.settings = session.settings ∧
      (session.step step).2.active = session.active := by
  cases step with
  | compile expression namedOnly => exact (apart trivial).elim
  | compileAsSet expression => exact (apart trivial).elim
  | library command => rw [Session.step]; split <;> exact ⟨rfl, rfl⟩
  | exchange library => exact ⟨rfl, rfl⟩
  | build name expression namedOnly => rw [Session.step, build]; split <;> exact ⟨rfl, rfl⟩
  | keep name => rw [Session.step]; split <;> exact ⟨rfl, rfl⟩
  | query query input => rw [Session.step]; split <;> exact ⟨rfl, rfl⟩
  | askActive request => rw [Session.step]; split <;> exact ⟨rfl, rfl⟩
  | askKept name request => rw [Session.step]; split <;> exact ⟨rfl, rfl⟩

/-- Success is that a matcher is installed. -/
theorem succeeds_iff : Succeeds session step ↔ ∃ handle, Installs session step handle := by
  constructor
  · rintro ⟨compiles, done⟩
    refine (session.step_of_compiles compiles).resolve_left ?_
    rintro ⟨e, refused⟩
    rw [refused] at done
    cases done
  · rintro ⟨handle, installs⟩
    exact ⟨installs.compiles, by rw [step_of_installs installs]⟩

theorem step_of_not_succeeds (fails : ¬ Succeeds session step) :
    (session.step step).2.settings = session.settings ∧
      (session.step step).2.active = session.active := by
  by_cases compiles : step.Compiles
  · obtain ⟨e, refused⟩ | installs := session.step_of_compiles compiles
    · rw [refused]
      exact ⟨rfl, rfl⟩
    · exact (fails (succeeds_iff.2 installs)).elim
  · exact session.step_of_not_compiles compiles

theorem settings_step (session : Session) (step : Step) :
    (session.step step).2.settings = session.settings := by
  by_cases succeeds : Succeeds session step
  · obtain ⟨handle, installs⟩ := succeeds_iff.1 succeeds
    rw [step_of_installs installs]
  · exact (step_of_not_succeeds succeeds).1

/-- After a step, the matcher is the one that the step installs, or else the one from before. -/
theorem active_step (session : Session) (step : Step) (handle : Handle) :
    (session.step step).2.active = some handle ↔
      Installs session step handle ∨ session.active = some handle ∧ ¬ Succeeds session step := by
  by_cases succeeds : Succeeds session step
  · obtain ⟨installed, installs⟩ := succeeds_iff.1 succeeds
    rw [step_of_installs installs, Option.some.injEq]
    constructor
    · rintro rfl
      exact .inl installs
    · rintro (others | ⟨-, fails⟩)
      · exact installs.unique others
      · exact (fails succeeds).elim
  · rw [(step_of_not_succeeds succeeds).2]
    constructor
    · exact fun before => .inr ⟨before, succeeds⟩
    · rintro (installs | ⟨before, -⟩)
      · exact (succeeds (succeeds_iff.2 ⟨handle, installs⟩)).elim
      · exact before

theorem active_step_eq_none (session : Session) (step : Step) :
    (session.step step).2.active = none ↔ session.active = none ∧ ¬ Succeeds session step := by
  by_cases succeeds : Succeeds session step
  · obtain ⟨handle, installs⟩ := succeeds_iff.1 succeeds
    simp [step_of_installs installs, succeeds]
  · simp [(step_of_not_succeeds succeeds).2, succeeds]

/-- Without a matcher, nothing matches, and every request for fields is refused. -/
theorem query_of_active_eq_none (absent : session.active = none) (query : Matcher.Query)
    (input : Input) :
    session.step (.query query input) = (withoutMatcher query, session) := by
  simp only [Session.step, absent]

/-! ### Runs -/

theorem settings_run (start : Session) (steps : List Step) :
    (start.run steps).settings = start.settings := by
  induction steps generalizing start with
  | nil => rfl
  | cons step rest ih => exact (ih _).trans (start.settings_step step)

theorem uncompiled_nil (start : Session) : Uncompiled start [] := by
  intro before step after split
  simp at split

theorem not_latest_nil (start : Session) (handle : Handle) : ¬ Latest start [] handle := by
  rintro ⟨before, step, after, split, -⟩
  simp at split

theorem uncompiled_cons : Uncompiled start (step :: steps) ↔
    ¬ Succeeds start step ∧ Uncompiled (start.step step).2 steps := by
  constructor
  · intro never
    refine ⟨never [] step steps rfl, fun before next after split => ?_⟩
    exact never (step :: before) next after (by rw [split, List.cons_append])
  · rintro ⟨fails, never⟩ before next after split
    obtain ⟨rfl, same⟩ | ⟨later, rfl, rest⟩ := List.cons_eq_append_iff.1 split
    · cases same
      exact fails
    · exact never later next after rest

theorem latest_cons : Latest start (step :: steps) handle ↔
    Installs start step handle ∧ Uncompiled (start.step step).2 steps ∨
      Latest (start.step step).2 steps handle := by
  constructor
  · rintro ⟨before, next, after, split, installs, never⟩
    obtain ⟨rfl, same⟩ | ⟨later, rfl, rest⟩ := List.cons_eq_append_iff.1 split
    · cases same
      exact .inl ⟨installs, never⟩
    · exact .inr ⟨later, next, after, rest, installs, never⟩
  · rintro (⟨installs, never⟩ | ⟨before, next, after, split, installs, never⟩)
    · exact ⟨[], step, steps, rfl, installs, never⟩
    · exact ⟨step :: before, next, after, by rw [split, List.cons_append], installs, never⟩

/-- After a run, the matcher is the latest one that was installed, or else the one from before. -/
theorem active_run (start : Session) (steps : List Step) (handle : Handle) :
    (start.run steps).active = some handle ↔
      Latest start steps handle ∨ start.active = some handle ∧ Uncompiled start steps := by
  -- The start stays general: what a step installs is there before the rest of the run.
  induction steps generalizing start with
  | nil => simp [run, uncompiled_nil, not_latest_nil]
  | cons step rest ih =>
    have later := ih (start.step step).2
    rw [active_step, or_and_right, and_assoc, or_left_comm, ← or_assoc] at later
    rw [latest_cons, uncompiled_cons]
    exact later

theorem active_run_eq_none (start : Session) (steps : List Step) :
    (start.run steps).active = none ↔ start.active = none ∧ Uncompiled start steps := by
  induction steps generalizing start with
  | nil => simp [run, uncompiled_nil]
  | cons step rest ih =>
    have later := ih (start.step step).2
    rw [active_step_eq_none, and_assoc] at later
    rw [uncompiled_cons]
    exact later

/-- After any run of a session, its settings are the ones that it was opened with. It has no matcher
    exactly if no compilation succeeded, and else the one of the latest success, as it was built
    from the library of that moment. Without a matcher nothing matches, and fields are refused. -/
theorem active_latest (settings : Settings) (definitions : List (String × String))
    (steps : List Step) :
    ((opened settings definitions).run steps).settings = settings ∧
    (((opened settings definitions).run steps).active = none ↔
      Uncompiled (opened settings definitions) steps) ∧
    (∀ handle, ((opened settings definitions).run steps).active = some handle ↔
      Latest (opened settings definitions) steps handle) ∧
    (((opened settings definitions).run steps).active = none → ∀ input,
      (((opened settings definitions).run steps).step (.query .isMatch input)).1 =
        .matcher (.flag false) ∧
      (((opened settings definitions).run steps).step (.query .fields input)).1 =
        .refused .notCompiled ∧
      (((opened settings definitions).run steps).step (.query .values input)).1 =
        .refused .notCompiled) := by
  have absent : (opened settings definitions).active = none := rfl
  refine ⟨settings_run _ steps, ?_, fun handle => ?_, fun empty input => ?_⟩
  · simp [active_run_eq_none, absent]
  · simp [active_run, absent]
  · simp [query_of_active_eq_none empty, withoutMatcher]

end LogSift.Session
