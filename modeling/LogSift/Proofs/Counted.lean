import LogSift.Proofs.Installed
import LogSift.Proofs.Recorded
import LogSift.Proofs.Rounding
import Mathlib.Data.List.Induction

/-!
What the count of a matcher says, after any run of a session. A count belongs to one compilation, and
to all handles of its matcher. It counts the inputs that those have been asked about since the
matcher was built or the count was last taken back (`tally_counts`); whatever else is done in the
session leaves it as it is.
-/

namespace LogSift

namespace Matcher

/-- The inputs that a request runs, in order. -/
def Request.trials : Request → List Trial
  | .query question input => [(question, input)]
  | .fieldsOfEach texts => texts.map fun text => (.fields, .text text)
  | .valuesOfEach texts => texts.map fun text => (.values, .text text)
  | .source | .info | .hint _ | .tally | .resetTally => []

/-- A count tells of some questions how many they are, how many of their inputs match, and how many
    of them are refused. -/
structure Counts (matcher : Matcher) (trials : List Trial) (tally : Tally) : Prop where
  attempts : tally.attempts = trials.length
  matched : tally.matched = trials.countP fun trial => matcher.meets trial.2
  failures : tally.failures = trials.countP matcher.refuses

variable {matcher : Matcher} {trials : List Trial} {tally : Tally} {request : Request}
  {query : Query} {input : Input}

/-! ### One request -/

theorem counts_nil (matcher : Matcher) : matcher.Counts [] {} := ⟨rfl, rfl, rfl⟩

/-- A question is counted once, and as what becomes of it. -/
theorem Counts.noted (counts : matcher.Counts trials tally) (trial : Trial) :
    matcher.Counts (trials ++ [trial])
      (tally.noted (matcher.meets trial.2) (matcher.refuses trial)) := by
  obtain ⟨attempts, matched, failures⟩ := counts
  cases met : matcher.meets trial.2 <;> cases failed : matcher.refuses trial <;>
    exact ⟨by simp [Tally.noted, Tally.record, Tally.recordFailure, attempts],
      by simp [Tally.noted, Tally.record, Tally.recordFailure, matched, met],
      by simp [Tally.noted, Tally.record, Tally.recordFailure, failures, failed]⟩

/-- The questions of a batch are counted one by one. -/
theorem Counts.each {α : Type} {next : String → Counting α} {query : Query}
    (each : ∀ text, (next text).Notes (matcher.meets (.text text))
      (matcher.refuses (query, .text text)))
    (counts : matcher.Counts trials tally) (texts : List String) (reply : List α → Reply) :
    matcher.Counts (trials ++ texts.map fun text => (query, .text text))
      ((reply <$> texts.mapM next).run tally).2 := by
  rw [StateT.run_map, Counting.Notes.mapM each]
  show matcher.Counts _ (texts.foldl _ tally)
  induction texts generalizing trials tally with
  | nil => simpa using counts
  | cons text rest ih => simpa using ih (counts.noted (query, .text text))

/-- To ask for something else than what becomes of inputs counts nothing. -/
theorem answer_of_trials_eq_nil (silent : request.trials = []) (kept : request ≠ .resetTally)
    (tally : Tally) : (matcher.answer tally request).2 = tally := by
  cases request with
  | query query input => cases silent
  | fieldsOfEach texts =>
    obtain rfl : texts = [] := List.map_eq_nil_iff.1 silent
    rfl
  | valuesOfEach texts =>
    obtain rfl : texts = [] := List.map_eq_nil_iff.1 silent
    rfl
  | resetTally => exact absurd rfl kept
  | _ => rfl

/-- A request is counted by the inputs that it runs, unless it takes the count back. -/
theorem Counts.answer (counts : matcher.Counts trials tally) (kept : request ≠ .resetTally) :
    matcher.Counts (trials ++ request.trials) (matcher.answer tally request).2 := by
  cases request with
  | query query input =>
    rw [answer, answerQuery_run]
    exact counts.noted (query, input)
  | fieldsOfEach texts => exact counts.each matcher.notes_parse texts _
  | valuesOfEach texts => exact counts.each matcher.notes_parseTyped texts _
  | resetTally => exact absurd rfl kept
  | _ =>
    rw [answer_of_trials_eq_nil rfl (by simp), Request.trials, List.append_nil]
    exact counts

/-- A question that is refused is about an input that matches. -/
theorem meets_of_refuses {trial : Trial} (refused : matcher.refuses trial = true) :
    matcher.meets trial.2 = true := by
  match trial with
  | (.values, .text s) =>
    cases found : matcher.regex.matchText? s with
    | none => simp [refuses, typed, result_parseTyped, found, Except.isOk, Except.toBool] at refused
    | some groups => simp [meets, found]
  | (.values, .bytes bs) =>
    cases found : matcher.regex.matchBytes? bs with
    | none =>
      simp [refuses, typed, result_parseTypedBytes, found, Except.isOk, Except.toBool] at refused
    | some groups => simp [meets, found]
  | (.isMatch, _) => simp [refuses] at refused
  | (.fields, _) => simp [refuses] at refused

theorem Counts.failures_le (counts : matcher.Counts trials tally) :
    tally.failures ≤ tally.matched := by
  rw [counts.failures, counts.matched]
  exact List.countP_mono_left fun trial _ refused => meets_of_refuses refused

theorem Counts.matched_le (counts : matcher.Counts trials tally) :
    tally.matched ≤ tally.attempts := by
  rw [counts.matched, counts.attempts]
  exact List.countP_le_length

/-- The rate of a count is a number between zero and one; it is a quotient only where there were
    inputs, and then its divisor is not zero. -/
structure Proportion (tally : Tally) : Prop where
  fraction : tally.rate.IsFraction
  none : tally.attempts = 0 → tally.rate = .zero false
  divisor : tally.attempts ≠ 0 → (Decimal.Binary64.ofInt tally.attempts).ratio.1 ≠ 0

theorem proportion_of_le (le : tally.matched ≤ tally.attempts) : Proportion tally := by
  have rate_none (none : tally.attempts = 0) : tally.rate = .zero false := by
    rw [Tally.rate, if_pos none]
    exact Decimal.Binary64.ofInt_zero
  refine ⟨?_, rate_none, fun some => Decimal.Binary64.ratio_ofInt_ne_zero (Nat.pos_of_ne_zero some)⟩
  by_cases none : tally.attempts = 0
  · rw [rate_none none]
    exact Decimal.Binary64.isFraction_zero
  · rw [Tally.rate, if_neg none]
    exact Decimal.Binary64.isFraction_div (Decimal.Binary64.magnitude_ofInt_mono le)

end Matcher

namespace Session

open Matcher (Trial Request Counts)

variable {session start : Session} {step : Step} {steps before after : List Step}
  {handle other : Handle} {request : Request} {number : Nat}

/-- What a step asks a matcher for. -/
def asks? (session : Session) : Step → Option (Handle × Request)
  | .query query input => session.active.map fun handle => (handle, .query query input)
  | .askActive request => session.active.map fun handle => (handle, request)
  | .askKept name request => session.kept[name]?.map fun handle => (handle, request)
  | .library _ | .exchange _ | .compile _ _ | .compileAsSet _ | .build _ _ _ | .keep _ => none

/-- A handle of the session: the active one, or one that is kept under a name. -/
def Holds (session : Session) (handle : Handle) : Prop :=
  session.active = some handle ∨ ∃ name : String, session.kept[name]? = some handle

/-- A step takes the count with a number back. -/
def Resets (session : Session) (number : Nat) (step : Step) : Prop :=
  ∃ handle, session.asks? step = some (handle, .resetTally) ∧ handle.number = number

/-- The inputs that a step runs through handles with a number. -/
def trialsOf (session : Session) (number : Nat) (step : Step) : List Trial :=
  match session.asks? step with
  | some (handle, request) => if handle.number = number then request.trials else []
  | none => []

theorem trialsOf_of_asks (asked : session.asks? step = some (other, request)) (number : Nat) :
    session.trialsOf number step = if other.number = number then request.trials else [] := by
  rw [trialsOf, asked]

/-- The count of a handle is that of another one after a request, if they share their count. -/
theorem tallyOf_ask (request : Request) (counted : other.number < session.tallies.length) :
    (session.ask handle request).2.tallyOf other =
      if handle.number = other.number then
        (handle.matcher.answer (session.tallyOf handle) request).2
      else session.tallyOf other := by
  simp only [ask, tallyOf, List.getElem?_set]
  by_cases same : handle.number = other.number
  · simp [same, counted]
  · simp [same]

/-- A request that runs no inputs, and does not take the count back, changes nothing. -/
theorem ask_of_trials_eq_nil (numbered : handle.number < session.tallies.length)
    (silent : request.trials = []) (kept : request ≠ .resetTally) :
    (session.ask handle request).2 = session := by
  have same : session.tallies.set handle.number (session.tallyOf handle) = session.tallies := by
    rw [tallyOf, List.getElem?_eq_getElem numbered, Option.getD_some, List.set_getElem_self]
  simp only [ask, Matcher.answer_of_trials_eq_nil silent kept, same]

variable [Regex.Engine]

/-- What a step builds: the matcher of its expression, under the next number. -/
inductive Builds (session : Session) : Step → Handle → Prop where
  | install {step : Step} {handle : Handle} (installs : Installs session step handle) :
      Builds session step handle
  | build {name expression : String} {namedOnly : Bool} {matcher : Matcher}
      (compiled : Matcher.compile session.library expression namedOnly session.settings =
        .ok matcher) :
      Builds session (.build name expression namedOnly) ⟨session.tallies.length, matcher⟩

/-- The inputs that a run takes through handles with a number, in order. -/
def trials (session : Session) (number : Nat) : List Step → List Trial
  | [] => []
  | step :: rest => session.trialsOf number step ++ (session.step step).2.trials number rest

/-- A step of a run built the matcher of a handle. -/
def Built (start : Session) (steps : List Step) (handle : Handle) : Prop :=
  ∃ before step, before ++ [step] <+: steps ∧ Builds (start.run before) step handle

/-- A part of a run begins behind the step that built a matcher, or behind one that took its count
    back, and no step of the part takes the count back. -/
structure Since (start : Session) (steps : List Step) (handle : Handle) (part : Session)
    (after : List Step) : Prop where
  begins : ∃ before mark, steps = before ++ [mark] ++ after ∧ part = start.run (before ++ [mark]) ∧
    (Builds (start.run before) mark handle ∨ Resets (start.run before) handle.number mark)
  kept : ∀ inner step, inner ++ [step] <+: after → ¬ Resets (part.run inner) handle.number step

/-- What holds of a matcher that a run built: its count tells of all inputs that it ran since, from
    which follow the order of the figures and their rate; no step that does not ask it changes the
    count, none that asks without running inputs changes anything, and the count is what it answers. -/
structure Account (start : Session) (steps : List Step) (handle : Handle) : Prop where
  counts : ∃ part after, Since start steps handle part after ∧
    handle.matcher.Counts (part.trials handle.number after) ((start.run steps).tallyOf handle)
  failures_le :
    ((start.run steps).tallyOf handle).failures ≤ ((start.run steps).tallyOf handle).matched
  matched_le :
    ((start.run steps).tallyOf handle).matched ≤ ((start.run steps).tallyOf handle).attempts
  proportion : Matcher.Proportion ((start.run steps).tallyOf handle)
  apart : ∀ step, (∀ request, (start.run steps).asks? step ≠ some (handle, request)) →
    ((start.run steps).step step).2.tallyOf handle = (start.run steps).tallyOf handle
  silent : ∀ step request, (start.run steps).asks? step = some (handle, request) →
    request.trials = [] → request ≠ .resetTally → ((start.run steps).step step).2 = start.run steps
  answered : ∀ step, (start.run steps).asks? step = some (handle, .tally) →
    ((start.run steps).step step).1 = .matcher (.tally ((start.run steps).tallyOf handle))

/-- Nothing has been built yet. -/
structure Unused (session : Session) : Prop where
  tallies : session.tallies = []
  idle : ∀ handle, ¬ session.Holds handle

/-! ### One step of a session -/

/-- A step neither builds nor asks a matcher: it leaves all counts, and brings no handle of another
    matcher. -/
structure Passes (session : Session) (step : Step) : Prop where
  silent : session.asks? step = none
  tallies : (session.step step).2.tallies = session.tallies
  holds : ∀ handle, (session.step step).2.Holds handle → session.Holds handle

theorem passes_of_eq (silent : session.asks? step = none) (stays : (session.step step).2 = session) :
    session.Passes step :=
  ⟨silent, by rw [stays], fun _ holds => stays ▸ holds⟩

/-- A matcher is built with a count of its own. -/
theorem step_of_builds (builds : Builds session step handle) :
    handle.number = session.tallies.length ∧ session.asks? step = none ∧
      (session.step step).2.tallies = session.tallies ++ [({} : Tally)] ∧
      ∀ other, (session.step step).2.Holds other → other = handle ∨ session.Holds other := by
  cases builds with
  | install installs =>
    have stepped := step_of_installs installs
    refine ⟨by cases installs <;> rfl, by cases installs <;> rfl, by rw [stepped], ?_⟩
    intro other holds
    rw [stepped] at holds
    rcases holds with active | kept
    · exact .inl (Option.some.inj active).symm
    · exact .inr (.inr kept)
  | @build name expression namedOnly matcher compiled =>
    have stepped : session.step (.build name expression namedOnly) = (.done, { session with
        tallies := session.tallies ++ [{}]
        kept := session.kept.insert name ⟨session.tallies.length, matcher⟩ }) := by
      simp only [Session.step, Session.build, matcherOf, compiled, register]
    refine ⟨rfl, rfl, by rw [stepped], fun other holds => ?_⟩
    rw [stepped] at holds
    rcases holds with active | ⟨found, kept⟩
    · exact .inr (.inl active)
    · rw [Std.TreeMap.getElem?_insert] at kept
      split at kept
      · exact .inl (Option.some.inj kept).symm
      · exact .inr (.inr ⟨found, kept⟩)

theorem builds_unique (builds : Builds session step handle) (others : Builds session step other) :
    handle = other := by
  cases builds with
  | install installs =>
    cases others with
    | install others => exact installs.unique others
    | build compiled => cases installs
  | build compiled =>
    cases others with
    | install installs => cases installs
    | build compiled' => rw [Except.ok.inj (compiled.symm.trans compiled')]

/-- A step that asks a matcher holds it. -/
theorem step_of_asks (asked : session.asks? step = some (handle, request)) :
    session.Holds handle ∧ session.step step = session.ask handle request := by
  cases step with
  | query query input =>
    obtain ⟨held, active, same⟩ := Option.map_eq_some_iff.1 asked
    cases same
    exact ⟨.inl active, by rw [Session.step, active]⟩
  | askActive request =>
    obtain ⟨held, active, same⟩ := Option.map_eq_some_iff.1 asked
    cases same
    exact ⟨.inl active, by rw [Session.step, active]⟩
  | askKept name request =>
    obtain ⟨held, kept, same⟩ := Option.map_eq_some_iff.1 asked
    cases same
    exact ⟨.inr ⟨name, kept⟩, by rw [Session.step, kept]⟩
  | _ => cases asked

/-- A step builds a matcher, asks one, or does neither. -/
theorem step_cases (session : Session) (step : Step) :
    (∃ handle, Builds session step handle) ∨
    (∃ handle request, session.asks? step = some (handle, request)) ∨ session.Passes step := by
  cases step with
  | library command =>
    refine .inr (.inr ⟨rfl, ?_, ?_⟩)
    · rw [Session.step]
      split <;> rfl
    · intro handle holds
      rw [Session.step] at holds
      split at holds <;> exact holds
  | exchange library => exact .inr (.inr ⟨rfl, rfl, fun _ holds => holds⟩)
  | compile expression namedOnly =>
    have compiles : (Step.compile expression namedOnly).Compiles := trivial
    rcases session.step_of_compiles compiles with
      ⟨e, refused⟩ | ⟨handle, installs⟩
    · exact .inr (.inr (passes_of_eq rfl (by rw [refused])))
    · exact .inl ⟨handle, .install installs⟩
  | compileAsSet expression =>
    have compiles : (Step.compileAsSet expression).Compiles := trivial
    rcases session.step_of_compiles compiles with
      ⟨e, refused⟩ | ⟨handle, installs⟩
    · exact .inr (.inr (passes_of_eq rfl (by rw [refused])))
    · exact .inl ⟨handle, .install installs⟩
  | build name expression namedOnly =>
    cases compiled : Matcher.compile session.library expression namedOnly session.settings with
    | error e =>
      refine .inr (.inr (passes_of_eq rfl ?_))
      simp only [Session.step, Session.build, matcherOf, compiled]
    | ok matcher => exact .inl ⟨_, .build compiled⟩
  | keep name =>
    refine .inr (.inr ⟨rfl, ?_, ?_⟩)
    · rw [Session.step]
      split <;> rfl
    · intro handle holds
      rw [Session.step] at holds
      split at holds
      · next held active =>
        rcases holds with same | ⟨found, kept⟩
        · exact .inl same
        · rw [Std.TreeMap.getElem?_insert] at kept
          split at kept
          · exact .inl (active.trans kept)
          · exact .inr ⟨found, kept⟩
      · exact holds
  | query query input =>
    cases active : session.active with
    | none =>
      have silent : session.asks? (.query query input) = none := by simp [asks?, active]
      exact .inr (.inr (passes_of_eq silent (by simp only [Session.step, active])))
    | some handle => exact .inr (.inl ⟨handle, .query query input, by simp [asks?, active]⟩)
  | askActive request =>
    cases active : session.active with
    | none =>
      have silent : session.asks? (.askActive request) = none := by simp [asks?, active]
      exact .inr (.inr (passes_of_eq silent (by simp only [Session.step, active])))
    | some handle => exact .inr (.inl ⟨handle, request, by simp [asks?, active]⟩)
  | askKept name request =>
    cases kept : session.kept[name]? with
    | none =>
      have silent : session.asks? (.askKept name request) = none := by simp [asks?, kept]
      exact .inr (.inr (passes_of_eq silent (by simp only [Session.step, kept])))
    | some handle => exact .inr (.inl ⟨handle, request, by simp [asks?, kept]⟩)

/-! ### Runs -/

theorem run_concat (start : Session) (steps : List Step) (step : Step) :
    start.run (steps ++ [step]) = ((start.run steps).step step).2 := by
  rw [run, List.foldl_append]
  rfl

theorem run_append (start : Session) (steps after : List Step) :
    start.run (steps ++ after) = (start.run steps).run after := by
  rw [run, List.foldl_append]
  rfl

theorem trials_concat (start : Session) (number : Nat) (steps : List Step) (step : Step) :
    start.trials number (steps ++ [step]) =
      start.trials number steps ++ (start.run steps).trialsOf number step := by
  induction steps generalizing start with
  | nil => simp [trials, run]
  | cons first rest ih =>
    rw [List.cons_append, trials, trials, ih, List.append_assoc]
    rfl

theorem built_concat : Built start (steps ++ [step]) handle ↔
    Built start steps handle ∨ Builds (start.run steps) step handle := by
  constructor
  · rintro ⟨before, last, begins, builds⟩
    rcases List.prefix_concat_iff.1 begins with whole | earlier
    · obtain ⟨rfl, same⟩ := List.append_inj' whole rfl
      cases same
      exact .inr builds
    · exact .inl ⟨before, last, earlier, builds⟩
  · rintro (⟨before, last, begins, builds⟩ | builds)
    · exact ⟨before, last, begins.trans (List.prefix_append ..), builds⟩
    · exact ⟨steps, step, List.prefix_refl _, builds⟩

/-- A part of a run goes on with a step that does not take the count back. -/
theorem Since.onward {part : Session} (since : Since start steps handle part after)
    (keeps : ¬ Resets (start.run steps) handle.number step) :
    part.run after = start.run steps ∧
      Since start (steps ++ [step]) handle part (after ++ [step]) := by
  obtain ⟨⟨before, mark, rfl, rfl, begins⟩, kept⟩ := since
  have arrives : (start.run (before ++ [mark])).run after = start.run (before ++ [mark] ++ after) :=
    (run_append ..).symm
  refine ⟨arrives, ⟨before, mark, (List.append_assoc ..), rfl, begins⟩, fun inner last early => ?_⟩
  rcases List.prefix_concat_iff.1 early with whole | earlier
  · obtain ⟨rfl, same⟩ := List.append_inj' whole rfl
    cases same
    rwa [arrives]
  · exact kept inner last earlier

theorem since_nil (begins : Builds (start.run steps) step handle ∨
    Resets (start.run steps) handle.number step) :
    Since start (steps ++ [step]) handle (start.run (steps ++ [step])) [] := by
  refine ⟨⟨steps, step, (List.append_nil _).symm, rfl, begins⟩, fun inner last early => ?_⟩
  exact absurd early (by simp)

/-- Every handle is that of a matcher that the run built, and counts are those of such matchers. -/
theorem built_of_holds (unused : start.Unused) (steps : List Step) :
    (∀ handle, (start.run steps).Holds handle → Built start steps handle) ∧
    ∀ handle, Built start steps handle → handle.number < (start.run steps).tallies.length := by
  induction steps using List.reverseRecOn with
  | nil =>
    refine ⟨fun handle holds => absurd holds (unused.idle handle), ?_⟩
    rintro handle ⟨before, step, early, _⟩
    exact absurd early (by simp)
  | append_singleton steps step ih =>
    obtain ⟨held, counted⟩ := ih
    simp only [built_concat, run_concat]
    -- A matcher that is built takes the next number, so its count is a new one.
    rcases (start.run steps).step_cases step with ⟨built, builds⟩ | ⟨asked, request, asks⟩ | passes
    · obtain ⟨_, _, tallies, holds⟩ := step_of_builds builds
      rw [tallies, List.length_append, List.length_singleton]
      refine ⟨fun handle here => ?_, fun handle made => ?_⟩
      · rcases holds handle here with rfl | before
        · exact .inr builds
        · exact .inl (held handle before)
      · rcases made with earlier | now
        · have := counted handle earlier
          omega
        · have := (step_of_builds now).1
          omega
    · obtain ⟨_, stepped⟩ := step_of_asks asks
      rw [stepped]
      refine ⟨fun handle here => .inl (held handle here), fun handle made => ?_⟩
      rw [ask, List.length_set]
      rcases made with earlier | now
      · exact counted handle earlier
      · cases (step_of_builds now).2.1.symm.trans asks
    · rw [passes.tallies]
      refine ⟨fun handle here => .inl (held handle (passes.holds handle here)), ?_⟩
      rintro handle (earlier | now)
      · exact counted handle earlier
      · have grows := congrArg List.length ((step_of_builds now).2.2.1.symm.trans passes.tallies)
        simp at grows

/-- Two handles with one number are handles of one matcher. -/
theorem eq_of_built (unused : start.Unused) (made : Built start steps handle)
    (others : Built start steps other) (same : handle.number = other.number) : handle = other := by
  induction steps using List.reverseRecOn with
  | nil =>
    obtain ⟨before, step, early, _⟩ := made
    exact absurd early (by simp)
  | append_singleton steps step ih =>
    have counted := (built_of_holds unused steps).2
    rcases built_concat.1 made with earlier | now <;>
      rcases built_concat.1 others with earlier' | now'
    · exact ih earlier earlier'
    · have := counted handle earlier
      have := (step_of_builds now').1
      omega
    · have := counted other earlier'
      have := (step_of_builds now).1
      omega
    · exact builds_unique now now'

/-- A step that neither builds the matcher nor asks it leaves its count. -/
theorem tallyOf_step (counted : handle.number < session.tallies.length)
    (apart : ∀ other request, session.asks? step = some (other, request) →
      other.number ≠ handle.number) :
    (session.step step).2.tallyOf handle = session.tallyOf handle := by
  rcases session.step_cases step with ⟨built, builds⟩ | ⟨other, request, asked⟩ | passes
  · obtain ⟨_, _, tallies, _⟩ := step_of_builds builds
    simp only [tallyOf, tallies, List.getElem?_append_left counted]
  · rw [(step_of_asks asked).2, tallyOf_ask request counted, if_neg (apart other request asked)]
  · rw [tallyOf, passes.tallies, tallyOf]

/-- Whichever matcher a step asks instead of a built one, its handle has another number. -/
theorem number_ne_of_asks (unused : start.Unused) (made : Built start steps handle)
    (apart : ∀ request, (start.run steps).asks? step ≠ some (handle, request)) (other : Handle)
    (request : Request) (asked : (start.run steps).asks? step = some (other, request)) :
    other.number ≠ handle.number := by
  intro same
  have here := (built_of_holds unused steps).1 other (step_of_asks asked).1
  rw [eq_of_built unused here made same] at asked
  exact apart request asked

/-- After a run, the count of every matcher that it built tells of what it was asked since. -/
theorem counts_since (unused : start.Unused) (made : Built start steps handle) :
    ∃ part after, Since start steps handle part after ∧
      handle.matcher.Counts (part.trials handle.number after) ((start.run steps).tallyOf handle) := by
  induction steps using List.reverseRecOn with
  | nil =>
    obtain ⟨before, step, early, _⟩ := made
    exact absurd early (by simp)
  | append_singleton steps step ih =>
    obtain ⟨held, counted⟩ := built_of_holds unused steps
    rcases built_concat.1 made with earlier | now
    · obtain ⟨part, after, since, counts⟩ := ih earlier
      -- Only a step that asks this very matcher counts, and it may begin a new part of the run.
      by_cases asked : ∃ request, (start.run steps).asks? step = some (handle, request)
      · obtain ⟨request, asked⟩ := asked
        by_cases reset : request = .resetTally
        · subst reset
          refine ⟨_, [], since_nil (.inr ⟨handle, asked, rfl⟩), ?_⟩
          rw [run_concat, (step_of_asks asked).2, tallyOf_ask _ (counted handle earlier), if_pos rfl]
          exact Matcher.counts_nil _
        · have keeps : ¬ Resets (start.run steps) handle.number step := by
            rintro ⟨other, asked', _⟩
            cases asked.symm.trans asked'
            exact reset rfl
          obtain ⟨arrives, since⟩ := since.onward keeps
          refine ⟨part, after ++ [step], since, ?_⟩
          rw [trials_concat, arrives, trialsOf_of_asks asked, if_pos rfl, run_concat,
            (step_of_asks asked).2, tallyOf_ask _ (counted handle earlier), if_pos rfl]
          exact counts.answer reset
      · have apart := number_ne_of_asks unused earlier (not_exists.1 asked)
        have keeps : ¬ Resets (start.run steps) handle.number step := by
          rintro ⟨other, asked', same⟩
          exact apart other _ asked' same
        have quiet : (start.run steps).trialsOf handle.number step = [] := by
          rw [trialsOf]
          split
          · next other request asked' => exact if_neg (apart other request asked')
          · rfl
        obtain ⟨arrives, since⟩ := since.onward keeps
        refine ⟨part, after ++ [step], since, ?_⟩
        rw [trials_concat, arrives, quiet, List.append_nil, run_concat,
          tallyOf_step (counted handle earlier) apart]
        exact counts
    · obtain ⟨number, _, tallies, _⟩ := step_of_builds now
      refine ⟨_, [], since_nil (.inl now), ?_⟩
      rw [run_concat, tallyOf, tallies, number, List.getElem?_concat_length]
      exact Matcher.counts_nil _

theorem account (unused : start.Unused) (made : Built start steps handle) :
    Account start steps handle := by
  have numbered := (built_of_holds unused steps).2 handle made
  obtain ⟨part, after, since, counts⟩ := counts_since unused made
  refine ⟨⟨part, after, since, counts⟩, counts.failures_le, counts.matched_le,
    Matcher.proportion_of_le counts.matched_le, ?_, ?_, ?_⟩
  · intro step apart
    exact tallyOf_step numbered (number_ne_of_asks unused made apart)
  · intro step request asked silent kept
    rw [(step_of_asks asked).2, ask_of_trials_eq_nil numbered silent kept]
  · intro step asked
    rw [(step_of_asks asked).2, ask, Matcher.answer]

theorem unused_opened (settings : Settings) (definitions : List (String × String)) :
    (opened settings definitions).Unused := by
  have absent : (opened settings definitions).active = none := rfl
  have empty : (opened settings definitions).kept = ∅ := rfl
  refine ⟨rfl, fun handle => ?_⟩
  rintro (active | ⟨name, kept⟩)
  · cases absent.symm.trans active
  · simp [empty] at kept

/-- After any run of a session, every handle, be it the active one or a kept one, is that of a matcher
    that a step of the run built. The count of such a matcher, which all its handles share, tells how
    many inputs they ran since it was built or one of them last took the count back, how many of
    those matched, and how many could not be converted; and no later matcher has the same count. -/
theorem tally_counts (settings : Settings) (definitions : List (String × String))
    (steps : List Step) :
    (∀ handle, ((opened settings definitions).run steps).Holds handle →
      Built (opened settings definitions) steps handle) ∧
    (∀ handle, Built (opened settings definitions) steps handle →
      Account (opened settings definitions) steps handle) ∧
    ∀ step handle other, Builds ((opened settings definitions).run steps) step other →
      Built (opened settings definitions) steps handle → handle.number ≠ other.number := by
  have unused := unused_opened settings definitions
  obtain ⟨held, numbered⟩ := built_of_holds unused steps
  refine ⟨held, fun handle made => account unused made, fun step handle other builds made => ?_⟩
  have := numbered handle made
  have := (step_of_builds builds).1
  omega

end Session
end LogSift
