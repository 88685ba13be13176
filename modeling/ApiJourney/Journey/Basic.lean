-- SUMMARY: Journeys.
import ApiJourney.Journey.Step

/-!
# Journeys

A journey is a list of steps in declared order, whose ids are distinct, with
defaults for their requests and variables for their templates.
-/

namespace ApiJourney

open Schema

structure JourneyDefaults where
  headers : List (String × String)
  timeout : Option Float
  thinkTime : Option ThinkTime

namespace JourneyDefaults

def none : JourneyDefaults := ⟨[], Option.none, Option.none⟩

def read (v : Value) : Verdict JourneyDefaults :=
  record "JourneyDefaults" v fun es =>
    JourneyDefaults.mk
      <$> withDefault es ["headers"] [] texts
      <*> optional es ["timeout"] (numberAbove 0)
      <*> optional es ["thinkTime", "think_time"] ThinkTime.read

def toValue (d : JourneyDefaults) : Value :=
  .object [
    ("headers", .textMap d.headers),
    ("timeout", .ofOption .float d.timeout),
    ("thinkTime", .ofOption ThinkTime.toValue d.thinkTime)]

end JourneyDefaults

structure Journey where
  id : String
  name : String
  description : Option String
  version : Option String
  baseUrl : Option String
  defaults : JourneyDefaults
  bindings : Entries
  steps : List Step

namespace Journey

/-- The ids that occur a second time. -/
def repeatedFrom (seen : List String) : List String → List String
  | [] => []
  | id :: rest => (if seen.contains id then [id] else []) ++ repeatedFrom (id :: seen) rest

def repeated (ids : List String) : List String :=
  (repeatedFrom [] ids).eraseDups.mergeSort (fun a b => compare a b != .gt)

/-- Refuses steps that share an id. -/
def checkIds (steps : List Step) : Verdict (List Step) :=
  match repeated (steps.map Step.id) with
  | [] => .accepted steps
  | ids =>
    let list := ((Value.texts ids).written?).getD ""
    .refuse (.rule s!"Duplicate step ids: {list}")

def read (v : Value) : Verdict Journey :=
  record "Journey" v fun es =>
    Journey.mk
      <$> required es ["id"] nonEmptyText
      <*> required es ["name"] text
      <*> optional es ["description"] text
      <*> optional es ["version"] text
      <*> optional es ["baseUrl", "base_url"] text
      <*> withDefault es ["defaults"] JourneyDefaults.none JourneyDefaults.read
      <*> withDefault es ["variables"] [] values
      <*> required es ["steps"] (fun v => (nonEmptyList Step.read v).andThen checkIds)

def toValue (j : Journey) : Value :=
  .object [
    ("id", .text j.id),
    ("name", .text j.name),
    ("description", .ofOption .text j.description),
    ("version", .ofOption .text j.version),
    ("baseUrl", .ofOption .text j.baseUrl),
    ("defaults", j.defaults.toValue),
    ("variables", .dict j.bindings),
    ("steps", .ofList Step.toValue j.steps)]

end Journey

end ApiJourney
