-- SUMMARY: Virtual users run through a journey.
import ApiJourney.Profile.Distributor
import ApiJourney.User.Basic

/-!
# Simulation

A simulation draws all its users first and then runs them one after the other. A user runs
as long as its next step is due and it has not run too many. What a user sends is answered
by a responder, which may remember what it was asked; between two steps the user may wait. Each
draw and each request is made at a moment of its own.
-/

namespace ApiJourney.Simulation

/-- What answers requests, with what it remembers. -/
abbrev Responder (σ : Type) := RenderedRequest → σ → Attempt Response × σ

structure Options where
  maxSteps : Int
  /-- The factor of think times; nothing is waited for when it is not positive. -/
  thinkTimeScale : Float

/-- The fresh values of moments that follow each other. -/
abbrev Clock := Nat → Fresh

/-- What a simulation has left behind: its random numbers, what the responder remembers,
    the seconds that were waited for, the last ones first, and how many moments are gone. -/
structure World (σ : Type) where
  random : Twister
  memory : σ
  waits : List Float
  moments : Nat

/-- A world in which a request was answered. -/
def World.answered (w : World σ) (memory : σ) : World σ :=
  { w with memory, moments := w.moments + 1 }

/-! ## One user -/

/-- The time waited for behind a step. -/
def wait (c : Course) (o : Options) (s : Step) (w : World σ) : Except Fault (World σ) :=
  if !Distributor.isPositive o.thinkTimeScale then .ok w
  else do
    let (x, random) ← c.journey.thinkTime s w.random
    let seconds := x * o.thinkTimeScale
    .ok { w with random, waits := if Distributor.isPositive seconds then seconds :: w.waits else w.waits }

/-- A user run on from a step. Each round executes a step that was not executed before. -/
def runFrom (c : Course) (clock : Clock) (respond : Responder σ) (o : Options) :
    Nat → Option String → VirtualUser → World σ → Attempt (VirtualUser × World σ)
  | _, none, u, w => .ok (u, w)
  | 0, _, u, w => .ok (u, w)
  | rounds + 1, some id, u, w =>
    if o.maxSteps ≤ u.state.executed.length || !c.journey.shouldExecute u.state id then .ok (u, w)
    else do
      let request ← u.prepare c (clock w.moments) id
      let (response, memory) := respond request w.memory
      let response ← response
      let (outcome, u) := u.respond c id response
      let outcome ← outcome
      let s ← c.step id
      let w ← orFault (wait c o s (w.answered memory))
      runFrom c clock respond o rounds outcome.nextStep u w

/-- A user run to its end. -/
def run (c : Course) (clock : Clock) (respond : Responder σ) (o : Options) (u : VirtualUser)
    (w : World σ) : Attempt (VirtualUser × World σ) :=
  runFrom c clock respond o (c.journey.steps.length + 1) u.state.nextStep u w

/-! ## All users -/

variable {F : Faker}

/-- The users `vu-1`, `vu-2` and so on, drawn in order. -/
def drawUsers (c : Course) (clock : Clock) (environment : Entries) (number : Nat) :
    Nat → Option (Distributor F) → Attempt (List VirtualUser)
  | 0, _ => .ok []
  | count + 1, source =>
    let id := s!"vu-{number}"
    match source with
    | none => do
      let rest ← drawUsers c clock environment (number + 1) count none
      .ok (VirtualUser.start c.journey id none environment :: rest)
    | some d => do
      let (drawn, d) := d.draw (clock number)
      let context ← drawn
      let rest ← drawUsers c clock environment (number + 1) count (some d)
      .ok (VirtualUser.start c.journey id (some context) environment :: rest)

/-- Users run one after the other. -/
def runAll (c : Course) (clock : Clock) (respond : Responder σ) (o : Options) :
    List VirtualUser → World σ → Attempt (List RunSummary × World σ)
  | [], w => .ok ([], w)
  | u :: rest, w => do
    let (u, w) ← run c clock respond o u w
    let (summaries, w) ← runAll c clock respond o rest w
    .ok (u.summary :: summaries, w)

/-- Users drawn from a distributor, if there is one, and run. -/
def simulate (c : Course) (clock : Clock) (source : Option (Distributor F)) (environment : Entries)
    (users : Nat) (respond : Responder σ) (o : Options) (w : World σ) :
    Attempt (List RunSummary × World σ) := do
  let us ← drawUsers c clock environment 1 users source
  runAll c clock respond o us { w with moments := users + 1 }

end ApiJourney.Simulation
