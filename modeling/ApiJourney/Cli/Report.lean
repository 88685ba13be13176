-- SUMMARY: What the commands of the command line print.
import ApiJourney.Json.Printer
import ApiJourney.Profile.Distributor
import ApiJourney.User.Basic

/-!
# Reports

The lines that commands print about journeys, profiles and users.
-/

namespace ApiJourney.Cli

/-! ## Journeys -/

def placePart : Schema.Place → String
  | .field name => name
  | .item n => toString n

/-- A place in a document, its steps separated by points. -/
def placeText (place : List Schema.Place) : String :=
  String.intercalate "." (place.map placePart)

/-- The issues of a document that is no journey. -/
def schemaLines (path : String) (issues : List Schema.Issue) : List String :=
  s!"Journey schema errors in {path}:" ::
    issues.map fun i => "  - " ++ placeText i.place ++ ": " ++ i.cause.message

def findingLine (f : Finding) : String :=
  "  " ++ f.severity.name ++ ": [" ++ f.step.getD "None" ++ "] " ++ f.message

/-- A valid journey with what was found about it. -/
def validLines (l : LoadedJourney) : List String :=
  l.findings.map findingLine ++
    [s!"Journey '{l.journey.name}' is valid ({l.journey.steps.length} steps, {l.findings.length} warning(s))"]

def pathMark (p : JourneyPath) : String :=
  if p.hasCycle then "cycle" else if p.isComplete then "complete" else "open"

def pathLine (p : JourneyPath) : String :=
  "[" ++ pathMark p ++ "] " ++ String.intercalate " -> " p.steps

/-! ## Profiles -/

/-- A drawn user as one line of JSON, made from its plain document. -/
def userLine (dump : Value → Except Fault Value) (u : UserContext) : Except Fault String := do
  let v ← dump u.toValue
  let cs ← Json.write Json.spaced v
  .ok (String.ofList cs)

def shareLine (s : ProfileStats) (target : List (String × Float)) (name : String) (count : Int) : String :=
  let percent (shares : List (String × Float)) : String :=
    Decimal.fixed 1 ((shares.lookup name).getD (Binary64.zero false))
  s!"  {name}: {count} (" ++ percent s.percentages ++ "% actual, " ++ percent target ++ "% target)"

/-- How the drawn users are spread over the profiles. -/
def distributionLines {F : Faker} (d : Distributor F) : List String :=
  let s := d.stats
  s!"Drew {s.total} user(s):" :: s.counts.map fun (name, count) => shareLine s d.target name count

/-! ## Users -/

def summaryLine (s : RunSummary) : String :=
  let profile := (Text.given? s.profile).getD "-"
  let state := if s.completed then "completed" else "stopped"
  s!"{s.user} ({profile}): {state} after " ++ String.intercalate " -> " s.path
    ++ s!" [{s.extractionErrors} extraction error(s)]"

/-! ## Usage -/

/-- How the program is called. -/
def usageLines : List String := [
  "usage: journey-engine [OPTIONS] COMMAND",
  "",
  "commands:",
  "  validate JOURNEY   check a journey for schema and structure errors",
  "  paths JOURNEY      list every path through a journey",
  "  sample PROFILES    draw users and show the distribution",
  "                       [-n COUNT] [--seed SEED] [--show-users]",
  "  simulate JOURNEY   run virtual users with a fixed response",
  "                       [--profiles PROFILES] [--users COUNT] [--status STATUS]",
  "                       [--body JSON] [--seed SEED]",
  "  serve              check the settings of the service",
  "                       [--host HOST] [--port PORT]",
  "",
  "options:",
  "  --debug            turn debugging on",
  "  --config FILE      settings file",
  "  --env NAME         environment, stored as NAME.env.json or NAME.env.yaml",
  "  --env-dir FOLDER   folder of the environments",
  "  --env-file FILE    file of the environment"]

end ApiJourney.Cli
