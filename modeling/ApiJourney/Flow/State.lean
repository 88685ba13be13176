-- SUMMARY: States, transitions and outcomes of a journey under way.
import ApiJourney.Journey.Condition

/-!
# Flow records

The state of one user on a journey, the transition that a response leads to, the
outcome of a processed response, and what is known of a journey's structure.
-/

namespace ApiJourney

open Schema

structure FlowState where
  currentStep : Option String
  bindings : Entries
  executed : List String
  nextStep : Option String

namespace FlowState

def read (v : Value) : Verdict FlowState :=
  record "FlowState" v fun es =>
    FlowState.mk
      <$> optional es ["currentStepId", "current_step_id"] text
      <*> withDefault es ["variables"] [] values
      <*> withDefault es ["executedSteps", "executed_steps"] [] (list text)
      <*> optional es ["nextStepId", "next_step_id"] text

def toValue (s : FlowState) : Value :=
  .object [
    ("currentStepId", .ofOption .text s.currentStep),
    ("variables", .dict s.bindings),
    ("executedSteps", .texts s.executed),
    ("nextStepId", .ofOption .text s.nextStep)]

end FlowState

/-! ## Transitions -/

/-- What decided which step is next. -/
inductive TransitionSource where
  | branch | onSuccess | onFailure | sequential | end_
  deriving DecidableEq

namespace TransitionSource

def name : TransitionSource → String
  | branch => "branch"
  | onSuccess => "onSuccess"
  | onFailure => "onFailure"
  | sequential => "sequential"
  | end_ => "end"

def options : List (String × TransitionSource) :=
  [branch, onSuccess, onFailure, sequential, end_].map fun s => (s.name, s)

end TransitionSource

structure Transition where
  matched : Bool
  nextStep : Option String
  condition : Option Condition
  source : TransitionSource

namespace Transition

def read (v : Value) : Verdict Transition :=
  record "TransitionResult" v fun es =>
    Transition.mk
      <$> required es ["matched"] boolean
      <*> optional es ["nextStepId", "next_step_id"] text
      <*> optional es ["matchedCondition", "matched_condition"] Condition.read
      <*> required es ["source"] (choice TransitionSource.options)

def toValue (t : Transition) : Value :=
  .object [
    ("matched", .bool t.matched),
    ("nextStepId", .ofOption .text t.nextStep),
    ("matchedCondition", .ofOption Condition.toValue t.condition),
    ("source", .text t.source.name)]

end Transition

structure StepOutcome where
  step : String
  nextStep : Option String
  bindings : Entries
  errors : List String
  transition : Transition

namespace StepOutcome

def read (v : Value) : Verdict StepOutcome :=
  record "StepOutcome" v fun es =>
    StepOutcome.mk
      <$> required es ["stepId", "step_id"] text
      <*> optional es ["nextStepId", "next_step_id"] text
      <*> withDefault es ["variables"] [] values
      <*> withDefault es ["errors"] [] (list text)
      <*> required es ["transition"] Transition.read

def fields (o : StepOutcome) : List (String × Value) :=
  [("stepId", .text o.step),
   ("nextStepId", .ofOption .text o.nextStep),
   ("variables", .dict o.bindings),
   ("errors", .texts o.errors),
   ("transition", o.transition.toValue)]

def toValue (o : StepOutcome) : Value :=
  .object o.fields

end StepOutcome

/-! ## Structure -/

inductive Severity where
  | error | warning
  deriving DecidableEq

def Severity.name : Severity → String
  | error => "error"
  | warning => "warning"

def Severity.options : List (String × Severity) :=
  [error, warning].map fun s => (s.name, s)

/-- A finding about the structure of a journey. -/
structure Finding where
  severity : Severity
  step : Option String
  message : String
  deriving DecidableEq

namespace Finding

def read (v : Value) : Verdict Finding :=
  record "ValidationIssue" v fun es =>
    Finding.mk
      <$> required es ["type"] (literalWord Severity.options)
      <*> optional es ["stepId", "step_id"] text
      <*> required es ["message"] text

def toValue (f : Finding) : Value :=
  .object [
    ("type", .text f.severity.name),
    ("stepId", .ofOption .text f.step),
    ("message", .text f.message)]

end Finding

/-- A way through a journey. -/
structure JourneyPath where
  steps : List String
  isComplete : Bool
  hasCycle : Bool
  deriving DecidableEq

namespace JourneyPath

def read (v : Value) : Verdict JourneyPath :=
  record "JourneyPath" v fun es =>
    JourneyPath.mk
      <$> required es ["steps"] (list text)
      <*> required es ["isComplete", "is_complete"] boolean
      <*> required es ["hasCycle", "has_cycle"] boolean

def toValue (p : JourneyPath) : Value :=
  .object [
    ("steps", .texts p.steps),
    ("isComplete", .bool p.isComplete),
    ("hasCycle", .bool p.hasCycle)]

end JourneyPath

end ApiJourney
