-- SUMMARY: How the decision service handles requests.
import ApiJourney.Service.Load
import ApiJourney.Service.State
import ApiJourney.Service.Reply
import ApiJourney.Service.Route

/-!
# Handling requests

A request is answered by a reply and leaves a state. What a request is refused for leaves
the state as it is, except that a load that was refused is remembered. A step is recorded
and a user added before the answer is written, so that they stay also when it cannot be.
-/

namespace ApiJourney.Service

open Files

/-- What a request takes from outside: files, fresh values, where random numbers start without a
    seed, what the library of fake data remembers, what makes records plain documents, an
    identifier for a new user, and readings of the host. -/
structure Supply (F : Faker) where
  disk : Disk
  fresh : Fresh
  entropy : Int
  fakes : F.State
  /-- The plain document that a record with values of all kinds becomes. -/
  dump : Value → Except Fault Value
  userId : String
  host : HostReading

variable {F : Faker}

/-- What comes of a request: content or a refusal, and the state behind it. -/
abbrev Outcome (F : Faker) := Except Refusal Content × State F

/-- A document as it is, as the content of a reply. -/
def plain (v : Value) : Except Refusal Content :=
  .ok (.document v)

/-- A document that may have failed to become plain, as the content of a reply. -/
def sent : Except Fault Value → Except Refusal Content
  | .ok v => plain v
  | .error f => .error (.fault f)

def orRefuse (r : Attempt α) : Except Refusal α :=
  r.mapError .ofFailure

/-- A failure that the client is not told of. -/
def hidden : Failure → Refusal
  | .fault f => .fault f
  | _ => .fault .badValue

/-! ## Bodies -/

/-- The body of a request as a record. -/
def readBody (body : Option Value) (read : Entries → Schema.Verdict α) : Except Refusal α :=
  let verdict := match body with
    | some (.dict es) => read es
    | some .null => .refuse .missing
    | some _ => .refuse .notTagged
    | none => .refuse .missing
  match verdict.under (.field "body") with
  | .accepted a => .ok a
  | .refused issues => .error (.badBody issues)

/-! ## Journeys -/

def health (s : State F) : Except Refusal Content :=
  plain (.object [
    ("status", .text "healthy"),
    ("app_status", .text s.status.name),
    ("journey", .ofOption .text (s.loaded.map fun l => l.journey.id))])

/-- The distributor of a load request, with its data rows. -/
def loadSource (x : Supply F) (r : LoadRequest) : Attempt (Option (Distributor F)) :=
  match r.profiles with
  | none => .ok none
  | some es => do
    let config ← accepted "ProfileConfig" (ProfileConfig.read (.dict es))
    let d ← Distributor.ofConfig config r.seed x.entropy x.fakes
    let (loaded, d) := d.load x.disk (.ofText r.dataFolder)
    loaded
    .ok (some d)

def sharesValue (shares : List (String × Float)) : Value :=
  .ofMap .float shares

def loadedValue (l : LoadedJourney) (source : Option (Distributor F)) : Value :=
  .object [
    ("message", .text s!"Journey '{l.journey.id}' loaded"),
    ("steps", .texts l.journey.stepIds),
    ("issues", findingsValue l.findings),
    ("targetDistribution", .ofOption sharesValue (source.map Distributor.target))]

/-- Whether a refusal to load is remembered; a fault is not. -/
def Refusal.isVerdict : Refusal → Bool
  | .fault _ => false
  | _ => true

/-- A journey is loaded in place of the one before. -/
def load (x : Supply F) (body : Option Value) (s : State F) : Outcome F :=
  match readBody body LoadRequest.fields with
  | .error r => (.error r, s)
  | .ok r =>
    let attempt : Attempt (LoadedJourney × Option (Distributor F)) := do
      let l ← LoadedJourney.ofDocument (.dict r.journey) r.environment []
      let source ← loadSource x r
      .ok (l, source)
    match orRefuse attempt with
    | .error e => (.error e, if e.isVerdict then s.markFailing else s)
    | .ok (l, source) =>
      (plain (loadedValue l source), State.load l source (r.environment.getD []))

def verdictValue (valid : Bool) (issues : List Schema.Issue) (findings : List Finding) : Value :=
  .object [
    ("valid", .bool valid), ("errors", issuesValue issues), ("issues", findingsValue findings)]

/-- What is to be said about a journey that is not kept. -/
def validate (body : Option Value) : Except Refusal Content := do
  let journey ← readBody body checkRequest
  match LoadedJourney.ofDocument (.dict journey) none [] with
  | .ok l => plain (verdictValue true [] l.findings)
  | .error (.invalid _ issues) => plain (verdictValue false issues [])
  | .error (.dangling findings) => plain (verdictValue false [] findings)
  | .error (.fault f) => .error (.fault f)
  | .error _ => .error (.fault .badValue)

def requireJourney (s : State F) : Except Refusal LoadedJourney :=
  match s.loaded with
  | some l => .ok l
  | none => .error .noJourney

def paths (s : State F) : Except Refusal Content := do
  let l ← requireJourney s
  plain (.object [("paths", .list (l.journey.paths.map JourneyPath.toValue))])

/-! ## Users -/

/-- What is told of a new user. -/
def createdValue (x : Supply F) (u : VirtualUser) : Except Fault Value := do
  let context ← match u.context with
    | none => .ok .null
    | some c => x.dump c.toValue
  .ok (.object [
    ("userId", .text u.id),
    ("user", context),
    ("nextStepId", .ofOption .text u.state.nextStep)])

/-- A user put on the loaded journey. -/
def startUser (x : Supply F) (l : LoadedJourney) (context : Option UserContext) (s : State F) :
    Outcome F :=
  let u := VirtualUser.start l.journey x.userId context s.environment
  (sent (createdValue x u), s.addUser u)

/-- A new user, drawn from the profiles if there are any. -/
def createUser (x : Supply F) (s : State F) : Outcome F :=
  match requireJourney s with
  | .error r => (.error r, s)
  | .ok l =>
    match s.source with
    | none => startUser x l none s
    | some d =>
      match d.draw x.fresh with
      | (.error f, d) => (.error (hidden f), { s with source := some d })
      | (.ok context, d) => startUser x l (some context) { s with source := some d }

def requireUser (s : State F) (id : String) : Except Refusal VirtualUser :=
  match s.user? id with
  | some u => .ok u
  | none => .error (.unknownUser id)

/-- A user for whom a step is due, with the course of the journey. -/
def requireStep (s : State F) (user step : String) : Except Refusal (VirtualUser × Course) := do
  let u ← requireUser s user
  let l ← requireJourney s
  if (l.journey.step? step).isNone then .error (.unknownStep step)
  else if !l.journey.shouldExecute u.state step then .error (.notDue step u.state.nextStep)
  else .ok (u, ⟨l, none⟩)

def stepRequest (x : Supply F) (user step : String) (s : State F) : Except Refusal Content := do
  let (u, course) ← requireStep s user step
  let r ← (u.prepare course x.fresh step).mapError hidden
  sent (x.dump r.toValue)

/-- What is told of a step: its outcome, and whether the user has finished. -/
def outcomeValue (x : Supply F) (o : StepOutcome) (finished : Bool) : Except Fault Value := do
  match ← x.dump o.toValue with
  | .dict es => .ok (.dict (Entries.put es "finished" (.bool finished)))
  | _ => .error .wrongType

/-- The response to a step, and what is next. -/
def stepResponse (x : Supply F) (user step : String) (body : Option Value) (s : State F) :
    Outcome F :=
  let ready := do
    let r ← readBody body fun es => Response.read (.dict es)
    let (u, course) ← requireStep s user step
    .ok (r, u, course)
  match ready with
  | .error e => (.error e, s)
  | .ok (r, u, course) =>
    match u.respond course step r with
    | (.error f, u) => (.error (hidden f), s.keepUser u)
    | (.ok o, u) => (sent (outcomeValue x o u.isFinished), s.recordStep u o)

def deleteUser (id : String) (s : State F) : Outcome F :=
  match requireUser s id with
  | .error r => (.error r, s)
  | .ok u => (plain u.summary.toValue, s.removeUser id)

/-! ## Statistics -/

def stats (s : State F) : Except Refusal Content :=
  plain (.object [
    ("stats", .ofOption (fun d => d.stats.toValue) s.source),
    ("target", .ofOption (fun d => sharesValue d.target) s.source),
    ("drift", .ofOption (fun d => sharesValue d.drift) s.source)])

/-! ## Requests -/

/-- What comes of a request for a route. -/
def follow (x : Supply F) (route : Route) (body : Option Value) (s : State F) : Outcome F :=
  match route with
  | .health => (health s, s)
  | .load => load x body s
  | .validate => (validate body, s)
  | .paths => (paths s, s)
  | .createUser => createUser x s
  | .stepRequest user step => (stepRequest x user step s, s)
  | .stepResponse user step => stepResponse x user step body s
  | .deleteUser user => deleteUser user s
  | .stats => (stats s, s)
  | .metrics => (plain (metricsValue x.host s), s)
  | .metricLines => (.ok (.text (metricsText x.host s)), s)

/-- The reply to what comes of a request. -/
def Reply.ofResult : Except Refusal Content → Reply
  | .ok c => .ofContent 200 c
  | .error e => e.reply

/-- The reply to a request, and the state behind it; what the framework replies by itself changes
    nothing. -/
def serve (W : Framework) (x : Supply F) (r : W.Request) (s : State F) : Reply × State F :=
  match W.dispatch r with
  | .own reply => (reply, s)
  | .call route body =>
    let (result, s) := follow x route body s
    (.ofResult result, s)

end ApiJourney.Service
