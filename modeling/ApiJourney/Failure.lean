-- SUMMARY: The ways in which loading and running journeys can fail.
import ApiJourney.Flow.State

/-!
# Failures

A failure names its cause; its text is made from the cause alone. Documents that
cannot be read as what they should be come with their issues, journeys with
dangling references with their findings.
-/

namespace ApiJourney

/-! ## Causes -/

/-- What is wrong with profiles, environments or settings. -/
inductive Misconfiguration where
  | noWeight
  | unknownLocale (generator profile locale : String)
  | unknownProvider (generator profile method : String)
  | notCallable (generator profile method : String)
  /-- The variable that names the settings file leads nowhere. -/
  | missingSettings (name path : String)
  | missingEnvironment (path : String)
  | environmentNoObject
  | settingsNoObject (path : String)
  deriving DecidableEq

/-- What is wrong with a source of data rows. -/
inductive SourceProblem where
  | notLoaded (profile : String)
  | notFound (path : String)
  | unreadable (path : String)
  | badJson (path : String)
  | noRows (path : String)
  | unknownFormat (path : String)
  deriving DecidableEq

/-- What is wrong with a document or a request for a step. -/
inductive DocumentProblem where
  | unparsable (path : String)
  | unknownFormat (suffix path : String)
  | noObject (path : String)
  | unknownStep (id : String)
  deriving DecidableEq

inductive Failure where
  | fault (f : Fault)
  /-- A document that is no record of the given name. -/
  | invalid (record : String) (issues : List Schema.Issue)
  /-- A journey with dangling references. -/
  | dangling (findings : List Finding)
  | misconfigured (m : Misconfiguration)
  | source (p : SourceProblem)
  | document (p : DocumentProblem)
  | missingFile (path : String)
  | missingFolder (path : String)

/-! ## Texts -/

def Misconfiguration.message : Misconfiguration → String
  | noWeight => "Total profile weight cannot be zero"
  | unknownLocale g p l => s!"Generator '{g}' of profile '{p}': unknown faker locale '{l}'"
  | unknownProvider g p m => s!"Generator '{g}' of profile '{p}': unknown faker method '{m}'"
  | notCallable g p m => s!"Generator '{g}' of profile '{p}': faker member '{m}' is not callable"
  | missingSettings v path => s!"{v} points to a missing file: {path}"
  | missingEnvironment path => s!"Environment file not found: {path}"
  | environmentNoObject => "Environment file must contain an object"
  | settingsNoObject path => s!"Project config {path} must contain an object"

def SourceProblem.message : SourceProblem → String
  | notLoaded p =>
    s!"Data source for profile '{p}' has not been loaded; call load_data() first"
  | notFound path => s!"Data source not found: {path}"
  | unreadable path => s!"Failed to read data source {path}"
  | badJson path => s!"Invalid JSON in data source {path}"
  | noRows path => s!"JSON data source {path} must be an object or an array of objects"
  | unknownFormat path => s!"Unsupported data source format: {path}"

def DocumentProblem.message : DocumentProblem → String
  | unparsable path => s!"Failed to parse {path}"
  | unknownFormat suffix path =>
    s!"Unsupported document format '{suffix}' for {path} (expected .json, .yaml or .yml)"
  | noObject path => s!"Journey document {path} must be an object"
  | unknownStep id => s!"Unknown step '{id}'"

/-- The errors among the findings of a journey, one below the other. -/
def danglingMessage (findings : List Finding) : String :=
  let errors := findings.filter (·.severity == .error)
  "Journey structure errors:\n" ++ String.intercalate "\n" (errors.map fun f => "  - " ++ f.message)

/-- How many issues a document has. -/
def issueCount (record : String) (issues : List Schema.Issue) : String :=
  let n := issues.length
  if n = 1 then s!"1 validation error for {record}" else s!"{n} validation errors for {record}"

/-- The text of a failure; a fault has none. -/
def Failure.message? : Failure → Option String
  | fault _ => none
  | invalid record issues => some (issueCount record issues)
  | dangling findings => some (danglingMessage findings)
  | misconfigured m => some m.message
  | source p => some p.message
  | document p => some p.message
  | missingFile path => some s!"File not found: {path}"
  | missingFolder path => some s!"Journey directory not found: {path}"

/-! ## Results -/

/-- A computation that may fail. -/
abbrev Attempt := Except Failure

def orFault (r : Except Fault α) : Attempt α :=
  r.mapError .fault

/-- A value that a document was read as, a record of the given name. -/
def accepted (record : String) (v : Schema.Verdict α) : Attempt α :=
  v.toExcept.mapError (.invalid record)

end ApiJourney
