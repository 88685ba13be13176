-- SUMMARY: Carrying out the commands of the command line.
import ApiJourney.Cli.Command
import ApiJourney.Cli.Report
import ApiJourney.Journey.Stored
import ApiJourney.Json.Reader
import ApiJourney.Profile.Distributor
import ApiJourney.User.Simulation

/-!
# Carrying out commands

A command prints lines and ends with a code: 0 when all is well, 1 when a journey under
validation has errors, and 2 when something that it needs is missing or wrong, which it
then says. A fault ends it without a code, and so does a line that the output does not take.
-/

namespace ApiJourney.Cli

open Files

/-- What a command has printed so far, and how it ends. -/
structure Printed where
  lines : List String
  /-- The code, or why there is none. -/
  ending : Attempt Nat

/-- What a command leaves: its code, its lines, and the problem it ran into. -/
structure Exit where
  code : Nat
  lines : List String
  problem : Option String
  deriving DecidableEq

def Printed.ok (lines : List String) : Printed := ⟨lines, .ok 0⟩

/-- A command that prints nothing when it fails. -/
def Printed.ofAttempt (r : Attempt (List String)) : Printed :=
  match r with
  | .ok lines => .ok lines
  | .error f => ⟨[], .error f⟩

/-- The lines are put out one after the other; a problem is told by its message. -/
def Printed.exit (print : String → Except Fault Unit) (p : Printed) : Except Fault Exit := do
  p.lines.forM print
  match p.ending with
  | .ok code => .ok ⟨code, p.lines, none⟩
  | .error (.fault f) => .error f
  | .error f => .ok ⟨2, p.lines, f.message?.map ("Error: " ++ ·)⟩

/-! ## Journeys -/

/-- The journey at a path, filled from the environment of the settings. -/
def journeyAt (s : Runner.Surroundings) (settings : Runner.Settings) (path : String) :
    Attempt LoadedJourney :=
  (StoredJourney.ofFile s.files (.ofText path) (some settings.environment.entries) []).map
    StoredJourney.loaded

/-- A journey is told to be valid, or what is wrong with it. -/
def validate (s : Runner.Surroundings) (settings : Runner.Settings) (path : String) : Printed :=
  match journeyAt s settings path with
  | .ok l => .ok (validLines l)
  | .error (.invalid _ issues) => ⟨schemaLines path issues, .ok 1⟩
  | .error (.dangling findings) => ⟨[danglingMessage findings], .ok 1⟩
  | .error f => ⟨[], .error f⟩

def paths (s : Runner.Surroundings) (settings : Runner.Settings) (path : String) : Printed :=
  .ofAttempt do
    let l ← journeyAt s settings path
    .ok (l.journey.paths.map pathLine)

/-! ## Profiles -/

/-- What a run takes from outside besides files: the fresh values of its moments, where random
    numbers start without a seed, what the library of fake data remembers, what makes records plain
    documents, and an output. -/
structure Supply (F : Faker) where
  clock : Simulation.Clock
  entropy : Int
  fakes : F.State
  /-- The plain document that a record with values of all kinds becomes. -/
  dump : Value → Except Fault Value
  /-- Whether the output takes a line. -/
  print : String → Except Fault Unit

variable {F : Faker}

/-- Users drawn one after the other, each with its line if they are shown. -/
def drawLines (x : Supply F) (shows : Bool) (number : Nat) :
    Nat → Distributor F → List String × Attempt (Distributor F)
  | 0, d => ([], .ok d)
  | count + 1, d =>
    match d.draw (x.clock number) with
    | (.error f, _) => ([], .error f)
    | (.ok u, d) =>
      match if shows then (userLine x.dump u).map (fun t => [t]) else .ok [] with
      | .error f => ([], .error (.fault f))
      | .ok line =>
        let (lines, r) := drawLines x shows (number + 1) count d
        (line ++ lines, r)

/-- The seed of the command line, or that of the settings. -/
def seedOf (settings : Runner.Settings) (seed : Option Int) : Option Int :=
  seed.or settings.profiles.seed

/-- The distributor of the profiles at a path. -/
def profilesAt (s : Runner.Surroundings) (x : Supply F) (settings : Runner.Settings)
    (seed : Option Int) (path : String) : Attempt (Distributor F) :=
  Distributor.ofFile s.files (.ofText path) none (seedOf settings seed) x.entropy x.fakes

def sample (s : Runner.Surroundings) (x : Supply F) (settings : Runner.Settings)
    (a : SampleArguments) : Printed :=
  match profilesAt s x settings a.seed a.profiles with
  | .error f => ⟨[], .error f⟩
  | .ok d =>
    let (lines, r) := drawLines x a.showsUsers 0 a.count.toNat d
    match r with
    | .ok d => .ok (lines ++ distributionLines d)
    | .error f => ⟨lines, .error f⟩

/-! ## Simulation -/

/-- The body of all responses; no text is no body. -/
def bodyOf (text : Option String) : Except Fault Value :=
  match Text.given? text with
  | some t => Json.parse t
  | none => .ok .null

/-- Answers every request alike. -/
def constant (status : Int) (body : Value) : Simulation.Responder Unit :=
  fun _ u => (.ok ⟨status, [(.text "content-type", .text "application/json")], body, Binary64.zero false⟩, u)

/-- The number of users that the command line asks for, or that of the settings. -/
def usersOf (settings : Runner.Settings) (users : Option Int) : Int :=
  (users.filter (· != 0)).getD settings.execution.users

/-- The distributor of the profiles that the command line or the settings name. -/
def sourceOf (s : Runner.Surroundings) (x : Supply F) (settings : Runner.Settings)
    (a : SimulateArguments) : Attempt (Option (Distributor F)) :=
  match (Text.given? a.profiles).or (Text.given? settings.profiles.path) with
  | none => .ok none
  | some path => (profilesAt s x settings a.seed path).map some

def simulate (s : Runner.Surroundings) (x : Supply F) (settings : Runner.Settings)
    (a : SimulateArguments) : Printed :=
  .ofAttempt do
    let loaded ← journeyAt s settings a.journey
    let source ← sourceOf s x settings a
    let body ← orFault (bodyOf a.body)
    let course : Course := ⟨loaded, some settings.environment.baseUrl⟩
    let random := Twister.ofSeed ((seedOf settings a.seed).getD x.entropy)
    let (summaries, _) ← Simulation.simulate course x.clock source settings.environment.entries
      (usersOf settings a.users).toNat (constant a.status body)
      ⟨settings.execution.maxSteps, settings.execution.thinkTimeScale⟩ ⟨random, (), [], 0⟩
    .ok (summaries.map summaryLine)

/-! ## All commands -/

/-- A command carried out. Serving is done elsewhere; here its settings are read. -/
def carryOut (s : Runner.Surroundings) (x : Supply F) (settings : Runner.Settings) :
    Command → Printed
  | .validate path => validate s settings path
  | .paths path => paths s settings path
  | .sample a => sample s x settings a
  | .simulate a => simulate s x settings a
  | .serve _ _ => .ok []

/-- A command line carried out. -/
def run (s : Runner.Surroundings) (x : Supply F) (a : Arguments) : Except Fault Exit :=
  match Runner.Settings.ofSources s a.sources with
  | .ok settings => (carryOut s x settings a.command).exit x.print
  | .error f => (Printed.mk [] (.error f)).exit x.print

end ApiJourney.Cli
