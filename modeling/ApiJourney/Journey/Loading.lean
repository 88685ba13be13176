-- SUMMARY: Journeys loaded from documents.
import ApiJourney.Failure
import ApiJourney.Flow.Structure
import ApiJourney.Template.Filling

/-!
# Loading journeys

A journey is loaded from its document: its base URL and its defaults are filled from
the environment and its own variables, and it is refused when references to steps
dangle. The templates of its steps stay as they are.
-/

namespace ApiJourney

structure LoadedJourney where
  /-- The journey with its defaults filled. -/
  journey : Journey
  /-- The base URL as filled, null when there is none. -/
  base : Value
  findings : List Finding

namespace LoadedJourney

/-- What base URL and defaults are filled from: the environment, the journey's own
    variables, and further ones, each over those before. -/
def context (j : Journey) (environment : Option Entries) (bindings : Entries) : Entries :=
  let env : Entries := (environment.map fun es => [(.text "env", .dict es)]).getD []
  Entries.update (Entries.update env j.bindings) bindings

/-- A base URL filled; an empty one stays. -/
def fillBase (context : Value) (base : Option String) : Except Fault Value :=
  match Text.given? base with
  | some b => Template.fillText context b
  | none => .ok (.ofOption .text base)

/-- Fields that hold something. -/
def withoutNulls : Value → Value
  | .dict es => .dict (es.filter fun (_, v) => !v.isNull)
  | v => v

/-- Defaults filled, and read again as what they should be. -/
def fillDefaults (context : Value) (d : JourneyDefaults) : Attempt JourneyDefaults := do
  let filled ← orFault (Template.fillAll context (withoutNulls d.toValue))
  accepted "JourneyDefaults" (JourneyDefaults.read filled)

def hasErrors (findings : List Finding) : Bool :=
  findings.any (·.severity == .error)

/-- A journey loaded. -/
def ofJourney (j : Journey) (environment : Option Entries) (bindings : Entries) :
    Attempt LoadedJourney := do
  let context := Value.dict (context j environment bindings)
  let base ← orFault (fillBase context j.baseUrl)
  let defaults ← fillDefaults context j.defaults
  let findings := j.findings
  if hasErrors findings then .error (.dangling findings)
  else .ok ⟨{ j with defaults }, base, findings⟩

/-- A journey loaded from its document. -/
def ofDocument (document : Value) (environment : Option Entries) (bindings : Entries) :
    Attempt LoadedJourney := do
  let j ← accepted "Journey" (Journey.read document)
  ofJourney j environment bindings

end LoadedJourney

end ApiJourney
