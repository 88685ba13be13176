-- SUMMARY: Transitions between steps, processing of responses, and think times.
import ApiJourney.Flow.Structure
import ApiJourney.Flow.Verdict
import ApiJourney.Random.Twister

/-!
# Running a journey

A response to a step is processed in order: its extractions bind variables, the
transition is decided, and the step is recorded as executed. The transition is
that of the first branch whose condition is met, else what the step names for
success or failure, else the next declared step.
-/

namespace ApiJourney

namespace Journey

/-! ## State -/

/-- A state before the first step. -/
def newState (j : Journey) (bindings : Entries) : FlowState :=
  ⟨some j.firstId, bindings, [], some j.firstId⟩

/-- Whether a step is due: the first one before any was executed, else the next one
    unless it was executed already. -/
def shouldExecute (j : Journey) (s : FlowState) (id : String) : Bool :=
  if s.executed.isEmpty && id == j.firstId then true
  else if s.executed.contains id then false
  else s.nextStep == some id

/-! ## Transitions -/

/-- The first branch whose condition is met. -/
def takenBranch? (r : Response) : List Branch → Except Fault (Option Branch)
  | [] => .ok none
  | b :: rest => do
    if ← b.condition.isMet r then .ok (some b) else takenBranch? r rest

/-- The transition when no branch is taken. -/
def plainTransition (j : Journey) (s : Step) (r : Response) : Transition :=
  let named := if r.isSuccess then s.onSuccess else s.onFailure
  match Text.given? named, j.following? s.id with
  | some target, _ =>
    ⟨true, some target, none, if r.isSuccess then .onSuccess else .onFailure⟩
  | none, some next => ⟨false, some next, none, .sequential⟩
  | none, none => ⟨false, none, none, .end_⟩

def branchTransition (b : Branch) : Transition :=
  ⟨true, some b.goto, some b.condition, .branch⟩

/-- The transition that a response leads to. -/
def transition (j : Journey) (s : Step) (r : Response) : Except Fault Transition := do
  match ← takenBranch? r s.branches with
  | some b =>
    let _ ← b.condition.describe
    .ok (branchTransition b)
  | none => .ok (j.plainTransition s r)

/-! ## Responses -/

def FlowState.bind (s : FlowState) (bindings : Entries) : FlowState :=
  { s with bindings := Entries.update s.bindings bindings }

/-- The state behind an executed step. -/
def advance (state : FlowState) (s : Step) (t : Transition) : FlowState :=
  { state with
    executed := state.executed ++ [s.id]
    currentStep := some s.id
    nextStep := t.nextStep }

/-- Processes a response. When the transition cannot be decided the variables are bound
    all the same. -/
def process (j : Journey) (s : Step) (r : Response) (state : FlowState) :
    Except Fault StepOutcome × FlowState :=
  match Extraction.runAll r s.extract with
  | .error f => (.error f, state)
  | .ok extracted =>
    let bound := FlowState.bind state extracted.bindings
    match j.transition s r with
    | .error f => (.error f, bound)
    | .ok t =>
      (.ok ⟨s.id, t.nextStep, extracted.bindings, extracted.errors, t⟩, advance bound s t)

/-! ## Think time -/

/-- A draw from a range: whole seconds between whole bounds. -/
def drawThink (b : ThinkRange) (t : Twister) : Except Fault (Float × Twister) :=
  if Binary64.isWhole b.min && Binary64.isWhole b.max then
    match Binary64.reading b.min, Binary64.reading b.max with
    | .finite m e, .finite n f =>
      let (k, t) := t.between (Binary64.truncate m e) (Binary64.truncate n f)
      match Binary64.ofInt? k with
      | some x => .ok (x, t)
      | none => .error .overflow
    | _, _ => .error .badValue
  else .ok (t.uniform b.min b.max)

/-- The think time behind a step, or behind any step of the journey. -/
def thinkTime (j : Journey) (s : Step) (t : Twister) : Except Fault (Float × Twister) :=
  match s.thinkTime.or j.defaults.thinkTime with
  | none => .ok (Binary64.zero false, t)
  | some (.fixed x) => .ok (x, t)
  | some (.range b) => drawThink b t

end Journey

end ApiJourney
