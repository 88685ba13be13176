-- SUMMARY: The steps that may follow a step, dangling references, and all ways through a journey.
import ApiJourney.Flow.State
import ApiJourney.Journey.Basic

/-!
# Structure of a journey

A journey is a graph: from each step an edge leads to the targets of its
branches, to where it goes on success and on failure, and to the next declared
step. References to steps that are not declared are errors, and steps that no
way leads to are warnings. Ways are followed to any length: the length at which a
run is out of stack is not modelled.
-/

namespace ApiJourney.Journey

/-! ## Steps -/

def stepIds (j : Journey) : List String :=
  j.steps.map Step.id

def step? (j : Journey) (id : String) : Option Step :=
  j.steps.find? (·.id == id)

def declares (j : Journey) (id : String) : Bool :=
  j.stepIds.contains id

def firstId (j : Journey) : String :=
  j.stepIds.headD ""

/-- The id behind another one in a list. -/
def idAfter (id : String) : List String → Option String
  | [] => none
  | x :: rest => if x = id then rest.head? else idAfter id rest

/-- The step declared behind a step. -/
def following? (j : Journey) (id : String) : Option String :=
  idAfter id j.stepIds

/-! ## Edges -/

/-- The steps that may follow a step: branches, success, failure, next declared. -/
def edges (j : Journey) (s : Step) : List String :=
  (s.branches.map Branch.goto
    ++ (Text.given? s.onSuccess).toList
    ++ (Text.given? s.onFailure).toList
    ++ (j.following? s.id).toList).eraseDups

def edgesOf (j : Journey) (id : String) : List String :=
  ((j.step? id).map j.edges).getD []

/-! ## Findings -/

/-- An error when the target of a reference is not declared. -/
def dangling (j : Journey) (s : Step) (what target : String) : List Finding :=
  if j.declares target then []
  else [⟨.error, some s.id, s!"{what} target '{target}' does not exist"⟩]

def danglingOf (j : Journey) (s : Step) : List Finding :=
  s.branches.flatMap (fun b => j.dangling s "Branch" b.goto)
    ++ (Text.given? s.onSuccess).toList.flatMap (j.dangling s "onSuccess")
    ++ (Text.given? s.onFailure).toList.flatMap (j.dangling s "onFailure")

/-- The steps reached from a stack of ids, on top of those reached already. -/
def reach (j : Journey) : Nat → List String → List String → List String
  | 0, _, reached => reached
  | _ + 1, [], reached => reached
  | fuel + 1, id :: stack, reached =>
    if reached.contains id || !j.declares id then reach j fuel stack reached
    else reach j fuel ((j.edgesOf id).reverse ++ stack) (id :: reached)

/-- The steps that some way from the first one leads to. -/
def reachable (j : Journey) : List String :=
  let pushes := (j.steps.flatMap j.edges).length
  j.reach (pushes + 2) [j.firstId] []

def unreachable (j : Journey) : List Finding :=
  let reached := j.reachable
  (j.stepIds.filter fun id => !reached.contains id).map fun id =>
    ⟨.warning, some id, s!"Step '{id}' is unreachable"⟩

/-- All findings: dangling references in declared order, then steps out of reach. -/
def findings (j : Journey) : List Finding :=
  j.steps.flatMap j.danglingOf ++ j.unreachable

/-! ## Paths -/

/-- All ways on from a step, behind the steps already taken. -/
def pathsFrom (j : Journey) : Nat → List String → String → List JourneyPath
  | 0, _, _ => []
  | fuel + 1, taken, id =>
    if taken.contains id then [⟨taken ++ [id], false, true⟩]
    else
      match (j.edgesOf id).filter j.declares with
      | [] => [⟨taken ++ [id], true, false⟩]
      | targets => targets.flatMap (pathsFrom j fuel (taken ++ [id]))

/-- All ways from the first step; a way ends where it meets itself. -/
def paths (j : Journey) : List JourneyPath :=
  j.pathsFrom (j.steps.length + 1) [] j.firstId

end ApiJourney.Journey
