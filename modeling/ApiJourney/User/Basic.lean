-- SUMMARY: Virtual users on a journey.
import ApiJourney.Flow.Process
import ApiJourney.Journey.Loading
import ApiJourney.Request.Rendering
import ApiJourney.Variables.Layers

/-!
# Virtual users

A virtual user was drawn from a profile, or not, and is somewhere on a journey. It fills
the requests of steps from its variables and takes the responses to them. It is finished
when it has run a step and none is next.
-/

namespace ApiJourney

/-- A journey as users run it. -/
structure Course where
  loaded : LoadedJourney
  /-- The base URL of a journey without one. -/
  base : Option String

namespace Course

/-- A journey as it is written. -/
def ofJourney (j : Journey) (base : Option String) : Course :=
  ⟨⟨j, .ofOption .text j.baseUrl, []⟩, base⟩

def journey (c : Course) : Journey :=
  c.loaded.journey

def step (c : Course) (id : String) : Attempt Step :=
  match c.journey.step? id with
  | some s => .ok s
  | none => .error (.document (.unknownStep id))

end Course

/-! ## Users -/

structure VirtualUser where
  id : String
  context : Option UserContext
  state : FlowState
  /-- The messages of all extractions that failed. -/
  errors : List String

/-- What became of a user. -/
structure RunSummary where
  user : String
  profile : Option String
  path : List String
  extractionErrors : Nat
  completed : Bool
  steps : Nat
  deriving DecidableEq

def RunSummary.toValue (s : RunSummary) : Value :=
  .object [
    ("userId", .text s.user),
    ("profileName", .ofOption .text s.profile),
    ("path", .texts s.path),
    ("extractionErrors", .int s.extractionErrors),
    ("completed", .bool s.completed),
    ("stepsExecuted", .int s.steps)]

namespace VirtualUser

/-- A user before the first step. -/
def start (j : Journey) (id : String) (context : Option UserContext) (environment : Entries) :
    VirtualUser :=
  ⟨id, context, j.newState (Variables.ofUser context j.bindings environment), []⟩

def profile (u : VirtualUser) : Option String :=
  u.context.map UserContext.profile

def isFinished (u : VirtualUser) : Bool :=
  !u.state.executed.isEmpty && u.state.nextStep.isNone

/-- The request of a step, filled from the user's variables. -/
def prepare (u : VirtualUser) (c : Course) (fresh : Fresh) (id : String) : Attempt RenderedRequest := do
  let s ← c.step id
  let context := Variables.context fresh [u.state.bindings]
  RenderedRequest.render c.journey s context (RenderedRequest.baseOf c.loaded.base c.base)

/-- A response to a step taken. When processing it fails, what it bound stays bound. -/
def respond (u : VirtualUser) (c : Course) (id : String) (r : Response) :
    Attempt StepOutcome × VirtualUser :=
  match c.step id with
  | .error f => (.error f, u)
  | .ok s =>
    match c.journey.process s r u.state with
    | (.error f, state) => (.error (.fault f), { u with state })
    | (.ok o, state) => (.ok o, { u with state, errors := u.errors ++ o.errors })

def summary (u : VirtualUser) : RunSummary :=
  ⟨u.id, u.profile, u.state.executed, u.errors.length, u.isFinished, u.state.executed.length⟩

end VirtualUser

end ApiJourney
