-- SUMMARY: Steps of a journey, their think times and branches.
import ApiJourney.Extraction.Basic
import ApiJourney.Journey.Condition
import ApiJourney.Journey.Request
import ApiJourney.Number.Decimal

/-!
# Steps

A step sends a request, extracts values from the response and names the steps
that may follow. The think time is what passes before the next step: a fixed
time or a range.
-/

namespace ApiJourney

open Schema

/-! ## Think time -/

structure ThinkRange where
  min : Float
  max : Float

namespace ThinkRange

def isOrdered (r : ThinkRange) : Bool :=
  (Binary64.reading r.min).order (Binary64.reading r.max) != some .gt

def checkBounds (r : ThinkRange) : Verdict ThinkRange :=
  if r.isOrdered then .accepted r
  else .refuse (.rule
    s!"thinkTime min ({Decimal.text r.min}) cannot be greater than max ({Decimal.text r.max})")

def read (v : Value) : Verdict ThinkRange :=
  (record "ThinkTimeRange" v fun es =>
    ThinkRange.mk
      <$> required es ["min"] (numberAtLeast 0)
      <*> required es ["max"] (numberAtLeast 0)).andThen checkBounds

def toValue (r : ThinkRange) : Value :=
  .object [("min", .float r.min), ("max", .float r.max)]

end ThinkRange

inductive ThinkTime where
  | fixed (seconds : Float)
  | range (bounds : ThinkRange)

namespace ThinkTime

def read : Value → Verdict ThinkTime :=
  either
    ("constrained-float", fun v => fixed <$> numberAtLeast 0 v)
    ("function-after[check_bounds(), ThinkTimeRange]", fun v => range <$> ThinkRange.read v)

def toValue : ThinkTime → Value
  | fixed x => .float x
  | range r => r.toValue

end ThinkTime

/-! ## Branches -/

structure Branch where
  condition : Condition
  goto : String

namespace Branch

def read (v : Value) : Verdict Branch :=
  record "Branch" v fun es =>
    Branch.mk
      <$> required es ["condition"] Condition.read
      <*> required es ["goto"] nonEmptyText

def toValue (b : Branch) : Value :=
  .object [("condition", b.condition.toValue), ("goto", .text b.goto)]

end Branch

/-! ## Steps -/

structure Step where
  id : String
  name : Option String
  request : RequestTemplate
  extract : List Extraction
  thinkTime : Option ThinkTime
  branches : List Branch
  onSuccess : Option String
  onFailure : Option String

namespace Step

def read (v : Value) : Verdict Step :=
  record "Step" v fun es =>
    Step.mk
      <$> required es ["id"] nonEmptyText
      <*> optional es ["name"] text
      <*> required es ["request"] RequestTemplate.read
      <*> withDefault es ["extract"] [] (list Extraction.read)
      <*> optional es ["thinkTime", "think_time"] ThinkTime.read
      <*> withDefault es ["branches"] [] (list Branch.read)
      <*> optional es ["onSuccess", "on_success"] text
      <*> optional es ["onFailure", "on_failure"] text

def toValue (s : Step) : Value :=
  .object [
    ("id", .text s.id),
    ("name", .ofOption .text s.name),
    ("request", s.request.toValue),
    ("extract", .ofList Extraction.toValue s.extract),
    ("thinkTime", .ofOption ThinkTime.toValue s.thinkTime),
    ("branches", .ofList Branch.toValue s.branches),
    ("onSuccess", .ofOption .text s.onSuccess),
    ("onFailure", .ofOption .text s.onFailure)]

/-- A step in words. -/
def label (s : Step) : String :=
  match Text.given? s.name with
  | some n => s!"'{n}' ({s.id})"
  | none => s!"({s.id})"

end Step

end ApiJourney
