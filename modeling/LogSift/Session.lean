import LogSift.Library.Command
import LogSift.Matcher.Request
import LogSift.Regex.Footprint

/-!
Sessions: settings, a library, and the matchers compiled with it. One matcher may be active; others
are kept under names. Handles of one matcher share its count of inputs.
-/

namespace LogSift

open Std (TreeMap)

/-- A matcher and the number of its count. -/
structure Handle where
  number : Nat
  matcher : Matcher

structure Session where
  settings : Settings
  library : Library
  active : Option Handle := none
  kept : TreeMap String Handle := ∅
  /-- The count of every matcher compiled so far. -/
  tallies : List Tally := []

namespace Session

/-- A session with the definitions of its settings, and nothing compiled. -/
def ofSettings (settings : Settings) : Session :=
  { settings, library := .ofSettings settings }

/-- Something that is done in a session. -/
inductive Step where
  | library (command : Library.Command)
  /-- Puts another library in the place of the one the session has. -/
  | exchange (library : Library)
  /-- Compiles an expression; its matcher becomes the active one. -/
  | compile (expression : String) (namedOnly : Bool)
  /-- Compiles an expression in the mode of the settings. -/
  | compileAsSet (expression : String)
  /-- Compiles an expression; its matcher is kept under a name. -/
  | build (name expression : String) (namedOnly : Bool)
  /-- Keeps the active matcher under a name, too. -/
  | keep (name : String)
  /-- Asks the session itself about an input. -/
  | query (query : Matcher.Query) (input : Input)
  | askActive (request : Matcher.Request)
  | askKept (name : String) (request : Matcher.Request)

/-- What a session answers. -/
inductive Reply where
  | done
  | refused (e : Error)
  /-- There is no matcher to answer. -/
  | absent
  | library (reply : Library.Reply)
  | matcher (reply : Matcher.Reply)

variable [Regex.Engine]

/-- Compiles an expression with the library as it is. -/
def matcherOf (session : Session) (expression : String) (namedOnly : Bool) :
    Except Error Matcher :=
  Matcher.compile session.library expression namedOnly session.settings

/-- Begins the count of a new matcher. -/
def register (session : Session) (matcher : Matcher) : Handle × Session :=
  (⟨session.tallies.length, matcher⟩, { session with tallies := session.tallies ++ [{}] })

/-- Compiles an expression and installs its matcher. After a failure, the active matcher stays. -/
def compile (session : Session) (expression : String) (namedOnly : Bool) : Reply × Session :=
  match session.matcherOf expression namedOnly with
  | .error e => (.refused e, session)
  | .ok matcher =>
    let (handle, session) := session.register matcher
    (.done, { session with active := some handle })

/-- Compiles an expression and keeps its matcher under a name. -/
def build (session : Session) (name expression : String) (namedOnly : Bool) : Reply × Session :=
  match session.matcherOf expression namedOnly with
  | .error e => (.refused e, session)
  | .ok matcher =>
    let (handle, session) := session.register matcher
    (.done, { session with kept := session.kept.insert name handle })

/-- The count of a handle. -/
def tallyOf (session : Session) (handle : Handle) : Tally :=
  session.tallies[handle.number]?.getD {}

/-- Asks the matcher of a handle, and notes its count. -/
def ask (session : Session) (handle : Handle) (request : Matcher.Request) : Reply × Session :=
  let (reply, tally) := handle.matcher.answer (session.tallyOf handle) request
  (.matcher reply, { session with tallies := session.tallies.set handle.number tally })

/-- What a question gets where nothing has been compiled: nothing matches, and fields are
    refused. -/
def withoutMatcher : Matcher.Query → Reply
  | .isMatch => .matcher (.flag false)
  | .fields | .values => .refused .notCompiled

/-- Does a step: the answer, and the session after it. -/
def step (session : Session) : Step → Reply × Session
  | .library command =>
    match session.library.obey command with
    | (.ok reply, library) => (.library reply, { session with library })
    | (.error e, library) => (.refused e, { session with library })
  | .exchange library => (.done, { session with library })
  | .compile expression namedOnly => session.compile expression namedOnly
  | .compileAsSet expression => session.compile expression session.settings.namedOnly
  | .build name expression namedOnly => session.build name expression namedOnly
  | .keep name =>
    match session.active with
    | some handle => (.done, { session with kept := session.kept.insert name handle })
    | none => (.absent, session)
  | .query query input =>
    match session.active with
    | some handle => session.ask handle (.query query input)
    | none => (withoutMatcher query, session)
  | .askActive request =>
    match session.active with
    | some handle => session.ask handle request
    | none => (.absent, session)
  | .askKept name request =>
    match session.kept[name]? with
    | some handle => session.ask handle request
    | none => (.absent, session)

/-- Does steps in order, and gives the session after the last one. -/
def run (session : Session) (steps : List Step) : Session :=
  steps.foldl (fun session next => (session.step next).2) session

end Session

end LogSift
