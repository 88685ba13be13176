-- SUMMARY: What the decision service keeps between requests, and its metrics.
import ApiJourney.Profile.Distributor
import ApiJourney.User.Basic

/-!
# State

The service holds a loaded journey, the distributor of its profiles, the environment, the
virtual users under way, and counts of what has happened since the journey was loaded.
-/

namespace ApiJourney.Service

inductive Status where
  | initializing
  | ready
  /-- The last load failed. -/
  | failing
  deriving DecidableEq

def Status.name : Status → String
  | initializing => "initializing"
  | ready => "ready"
  | failing => "error"

def Status.code : Status → Nat
  | initializing => 0
  | ready => 1
  | failing => 3

structure Counters where
  created : Nat
  finished : Nat
  steps : Nat
  extractionErrors : Nat
  deriving DecidableEq

def Counters.zero : Counters := ⟨0, 0, 0, 0⟩

structure State (F : Faker) where
  status : Status
  loaded : Option LoadedJourney
  source : Option (Distributor F)
  environment : Entries
  /-- The users under way, by their identifiers. -/
  users : List (String × VirtualUser)
  counters : Counters

namespace State

variable {F : Faker}

def initial : State F := ⟨.initializing, none, none, [], [], .zero⟩

/-- The state behind a load: no users, and nothing counted. -/
def load (l : LoadedJourney) (source : Option (Distributor F)) (environment : Entries) :
    State F :=
  ⟨.ready, some l, source, environment, [], .zero⟩

def markFailing (s : State F) : State F :=
  { s with status := .failing }

/-- A new user under way. -/
def addUser (s : State F) (u : VirtualUser) : State F :=
  { s with
    users := Distributor.assign u.id u s.users
    counters := { s.counters with created := s.counters.created + 1 } }

/-- A user behind a step, and what happened there. -/
def recordStep (s : State F) (u : VirtualUser) (o : StepOutcome) : State F :=
  { s with
    users := Distributor.assign u.id u s.users
    counters := { s.counters with
      steps := s.counters.steps + 1
      extractionErrors := s.counters.extractionErrors + o.errors.length
      finished := s.counters.finished + (if u.isFinished then 1 else 0) } }

/-- A user as it is, nothing counted. -/
def keepUser (s : State F) (u : VirtualUser) : State F :=
  { s with users := Distributor.assign u.id u s.users }

def removeUser (s : State F) (id : String) : State F :=
  { s with users := s.users.filter fun (k, _) => k != id }

def user? (s : State F) (id : String) : Option VirtualUser :=
  s.users.lookup id

end State

/-! ## Metrics -/

/-- What was read from the host. -/
structure HostReading where
  time : String
  bytesSent : Nat
  bytesReceived : Nat
  processorPercent : Float
  memoryPercent : Float
  availableMegabytes : Float
  residentMegabytes : Float

variable {F : Faker}

def countsValue (s : State F) : Value :=
  .object [
    ("active_virtual_users", .int s.users.length),
    ("users_created", .int s.counters.created),
    ("users_finished", .int s.counters.finished),
    ("steps_processed", .int s.counters.steps),
    ("extraction_errors", .int s.counters.extractionErrors)]

def metricsValue (h : HostReading) (s : State F) : Value :=
  .object [
    ("timestamp", .text h.time),
    ("app_status", .text s.status.name),
    ("network", .object [("bytes_sent", .int h.bytesSent), ("bytes_recv", .int h.bytesReceived)]),
    ("system", .object [
      ("cpu_percent", .float h.processorPercent),
      ("memory_percent", .float h.memoryPercent),
      ("memory_available_mb", .float h.availableMegabytes),
      ("process_rss_mb", .float h.residentMegabytes)]),
    ("metrics", countsValue s)]

/-! ## Lines -/

/-- A metric with its meaning, its kind and its value. -/
structure Metric where
  name : String
  help : String
  kind : String
  reading : String

def Metric.lines (m : Metric) : List String :=
  [s!"# HELP {m.name} {m.help}", s!"# TYPE {m.name} {m.kind}", s!"{m.name} {m.reading}"]

def gauge (name help reading : String) : Metric := ⟨name, help, "gauge", reading⟩

def count (name help : String) (n : Nat) : Metric := ⟨name, help, "counter", toString n⟩

def allMetrics (h : HostReading) (s : State F) : List Metric :=
  [gauge "host_cpu_percent" "Host CPU usage percent." (Decimal.text h.processorPercent),
   gauge "host_memory_percent" "Host memory usage percent." (Decimal.text h.memoryPercent),
   gauge "journey_active_virtual_users" "Virtual users currently tracked." (toString s.users.length),
   count "journey_users_created_total" "Virtual users started." s.counters.created,
   count "journey_users_finished_total" "Virtual users that reached the end of the journey."
     s.counters.finished,
   count "journey_steps_processed_total" "Step responses evaluated." s.counters.steps,
   count "journey_extraction_errors_total" "Extractions that failed without a default."
     s.counters.extractionErrors,
   gauge "app_status" "Application status (initializing=0, ready=1, error=3)."
     (toString s.status.code)]

/-- All metrics as text. -/
def metricsText (h : HostReading) (s : State F) : String :=
  String.join (((allMetrics h s).flatMap Metric.lines).map (· ++ "\n"))

end ApiJourney.Service
