-- SUMMARY: The settings of a runner.
import ApiJourney.Failure
import ApiJourney.Text.Case

/-!
# Settings

What a runner can be told: which journey and profiles to use, the environment of
the templates, how many users to run and how far, and where to serve decisions.
Every setting has a default; that of the log level comes from outside.
-/

namespace ApiJourney.Runner

open Schema

def integerBetween (low high : Int) (v : Value) : Verdict Int :=
  (integerAtLeast low v).andThen fun n =>
    if n ≤ high then .accepted n else .refuse (.notAtMost high)

/-! ## Environment -/

def defaultBaseUrl : String := "http://localhost:3000"

structure EnvironmentSettings where
  name : String
  /-- The base URL of journeys that name none. -/
  baseUrl : String
  bindings : Entries

namespace EnvironmentSettings

def default : EnvironmentSettings := ⟨"default", defaultBaseUrl, []⟩

def readTarget (v : Value) : Verdict String :=
  record "TargetConfig" v fun es => withDefault es ["baseUrl", "base_url"] defaultBaseUrl text

def read (v : Value) : Verdict EnvironmentSettings :=
  record "EnvironmentConfig" v fun es =>
    EnvironmentSettings.mk
      <$> withDefault es ["name"] "default" text
      <*> withDefault es ["target"] defaultBaseUrl readTarget
      <*> withDefault es ["variables"] [] values

def toValue (e : EnvironmentSettings) : Value :=
  .object [
    ("name", .text e.name),
    ("target", .object [("baseUrl", .text e.baseUrl)]),
    ("variables", .dict e.bindings)]

/-- What templates see as `env`: the variables, and the base URL. -/
def entries (e : EnvironmentSettings) : Entries :=
  Entries.put e.bindings "API_BASE_URL" (.text e.baseUrl)

end EnvironmentSettings

/-! ## Profiles -/

structure ProfileSettings where
  path : Option String
  /-- What makes draws repeatable. -/
  seed : Option Int

namespace ProfileSettings

def default : ProfileSettings := ⟨none, none⟩

def read (v : Value) : Verdict ProfileSettings :=
  record "ProfileSettings" v fun es =>
    ProfileSettings.mk <$> optional es ["path"] text <*> optional es ["seed"] integer

def toValue (p : ProfileSettings) : Value :=
  .object [("path", .ofOption .text p.path), ("seed", .ofOption .int p.seed)]

end ProfileSettings

/-! ## Execution -/

structure ExecutionSettings where
  users : Int
  /-- The most steps that a user runs. -/
  maxSteps : Int
  /-- The factor of think times; zero means no waiting. -/
  thinkTimeScale : Float
  dryRun : Bool
  debug : Bool

namespace ExecutionSettings

def default : ExecutionSettings := ⟨1, 100, Binary64.zero false, false, false⟩

def read (v : Value) : Verdict ExecutionSettings :=
  record "ExecutionSettings" v fun es =>
    ExecutionSettings.mk
      <$> withDefault es ["virtualUsers", "virtual_users"] 1 (integerAtLeast 1)
      <*> withDefault es ["maxSteps", "max_steps"] 100 (integerAtLeast 1)
      <*> withDefault es ["thinkTimeScale", "think_time_scale"] (Binary64.zero false) (numberAtLeast 0)
      <*> withDefault es ["dryRun", "dry_run"] false boolean
      <*> withDefault es ["debug"] false boolean

def toValue (e : ExecutionSettings) : Value :=
  .object [
    ("virtualUsers", .int e.users),
    ("maxSteps", .int e.maxSteps),
    ("thinkTimeScale", .float e.thinkTimeScale),
    ("dryRun", .bool e.dryRun),
    ("debug", .bool e.debug)]

end ExecutionSettings

/-! ## Service -/

def logLevels : List String := ["CRITICAL", "ERROR", "WARNING", "INFO", "DEBUG"]

/-- A log level in upper case. -/
def logLevel (s : String) : Verdict String :=
  let level := String.ofList (Text.upper s.toList)
  if logLevels.contains level then .accepted level
  else .refuse (.rule s!"Unknown log level '{s}'")

structure ServiceSettings where
  host : String
  port : Int
  logLevel : String

namespace ServiceSettings

/-- The settings of a service, with the log level that counts when none is set. -/
def read (level : String) (v : Value) : Verdict ServiceSettings :=
  record "ApiSettings" v fun es =>
    let names := ["logLevel", "log_level"]
    ServiceSettings.mk
      <$> withDefault es ["host"] "0.0.0.0" text
      <*> withDefault es ["port"] 8080 (integerBetween 1 65535)
      <*> (if has es names then required es names (fun v => (text v).andThen Runner.logLevel)
           else (Runner.logLevel level).under (.field "log_level"))

def toValue (s : ServiceSettings) : Value :=
  .object [("host", .text s.host), ("port", .int s.port), ("logLevel", .text s.logLevel)]

end ServiceSettings

/-! ## All settings -/

structure Settings where
  journeyPath : Option String
  profiles : ProfileSettings
  environment : EnvironmentSettings
  execution : ExecutionSettings
  service : ServiceSettings

namespace Settings

def readJourney (v : Value) : Verdict (Option String) :=
  record "JourneySettings" v fun es => optional es ["path"] text

/-- All settings, given those of the service when none are written. -/
def readWith (level : String) (service : Verdict ServiceSettings) (v : Value) : Verdict Settings :=
  record "RunnerConfig" v fun es =>
    Settings.mk
      <$> withDefault es ["journey"] none readJourney
      <*> withDefault es ["profiles"] .default ProfileSettings.read
      <*> withDefault es ["environment"] .default EnvironmentSettings.read
      <*> withDefault es ["execution"] .default ExecutionSettings.read
      <*> (if has es ["api"] then required es ["api"] (ServiceSettings.read level) else service)

/-- Whether the settings of the service are left to their defaults. -/
def leavesService : Value → Bool
  | .dict es => !has es ["api"]
  | _ => false

/-- All settings. When those of the service are left to their defaults and the log level is
    none, this comes before all else. -/
def read (level : String) (v : Value) : Attempt Settings :=
  let service := ServiceSettings.read level (.dict [])
  match leavesService v, service with
  | true, .refused issues => .error (.invalid "ApiSettings" issues)
  | _, _ => accepted "RunnerConfig" (readWith level service v)

def toValue (s : Settings) : Value :=
  .object [
    ("journey", .object [("path", .ofOption .text s.journeyPath)]),
    ("profiles", s.profiles.toValue),
    ("environment", s.environment.toValue),
    ("execution", s.execution.toValue),
    ("api", s.service.toValue)]

end Settings

end ApiJourney.Runner
