-- SUMMARY: Runs that execute only due steps, and what holds of every state that they reach.
import ApiJourney.Proofs.Flow.Edges

/-!
# Gated runs

A gated run starts in a new state and processes responses to declared steps that are due.
Its executed steps are a simple walk along the edges of the journey: it starts at the first
step, never comes back to a step, and stands at its end. What is due next, if anything, is
one edge further.
-/

namespace ApiJourney.Journey

/-! ## Runs -/

/-- A declared step that is due is processed without a fault. -/
inductive GatedStep (j : Journey) : FlowState → FlowState → Prop where
  | process (step : Step) (r : Response) {s s' : FlowState} {o : StepOutcome} :
      step ∈ j.steps →
      j.shouldExecute s step.id = true →
      j.process step r s = (.ok o, s') →
      GatedStep j s s'

/-- Due steps processed one after the other, with any responses. -/
def GatedRun (j : Journey) : FlowState → FlowState → Prop :=
  Relation.ReflTransGen j.GatedStep

theorem shouldExecute_iff {j : Journey} {s : FlowState} {id : String} :
    j.shouldExecute s id = true ↔
      (s.executed = [] ∧ id = j.firstId) ∨ (id ∉ s.executed ∧ s.nextStep = some id) := by
  unfold shouldExecute
  cases h : s.executed with
  | nil => by_cases hid : id = j.firstId <;> simp [hid]
  | cons x rest => by_cases hid : id ∈ x :: rest <;> simp [hid]

theorem process_eq_ok {j : Journey} {step : Step} {r : Response} {s s' : FlowState}
    {o : StepOutcome} (h : j.process step r s = (.ok o, s')) :
    ∃ (extracted : Extracted) (t : Transition),
      j.transition step r = .ok t ∧ s' = advance (FlowState.bind s extracted.bindings) step t := by
  unfold process at h
  cases hextracted : Extraction.runAll r step.extract with
  | error f => simp [hextracted] at h
  | ok extracted =>
    cases ht : j.transition step r with
    | error f => simp [hextracted, ht] at h
    | ok t =>
      simp only [hextracted, ht, Prod.mk.injEq] at h
      exact ⟨extracted, t, rfl, h.2.symm⟩

/-- All that a gated step changes of the progress: the step is put behind those executed,
    and the next one follows an edge unless the last declared step ended the journey. -/
theorem GatedStep.progress {j : Journey} {s s' : FlowState} (h : j.GatedStep s s') :
    ∃ step ∈ j.steps, j.shouldExecute s step.id = true ∧
      s'.executed = s.executed ++ [step.id] ∧ s'.currentStep = some step.id ∧
      (∀ id, s'.nextStep = some id → id ∈ j.edges step) ∧
      (s'.nextStep = none → j.following? step.id = none) := by
  cases h with
  | process step r hstep hdue hprocess =>
    obtain ⟨extracted, t, ht, rfl⟩ := process_eq_ok hprocess
    exact ⟨step, hstep, hdue, rfl, rfl, fun id hid => mem_edges_of_transition ht hid,
      fun hnone => following?_of_transition ht hnone⟩

/-! ## Progress -/

/-- The progress of a state: a simple walk from the first step, and the next step along an
    edge of the last one. -/
structure Progress (j : Journey) (s : FlowState) : Prop where
  /-- No step was executed twice. -/
  nodup : s.executed.Nodup
  declared : ∀ id ∈ s.executed, j.declares id = true
  starts : ∀ id, s.executed.head? = some id → j.stepIds.head? = some id
  follows : s.executed.IsChain fun a b => b ∈ j.edgesOf a
  /-- The last executed step is the current one, before any the first step. -/
  current : s.currentStep = s.executed.getLast?.or j.stepIds.head?
  next_declared : ∀ id, s.nextStep = some id → j.declares id = true
  next_edge : ∀ last id, s.executed.getLast? = some last → s.nextStep = some id →
    id ∈ j.edgesOf last
  next_first : s.executed = [] → s.nextStep = j.stepIds.head?
  /-- Only behind the last declared step there is none. -/
  ended : ∀ last, s.executed.getLast? = some last → s.nextStep = none →
    j.stepIds.getLast? = some last

namespace Progress

variable {j : Journey} {s s' : FlowState}

theorem newState (hj : j.WellFormed) (bindings : Entries) : j.Progress (j.newState bindings) where
  nodup := List.nodup_nil
  declared := by simp [Journey.newState]
  starts := by simp [Journey.newState]
  follows := List.isChain_nil
  current := by simp [Journey.newState, hj.head?_stepIds]
  next_declared := by
    intro id hid
    cases hid
    exact hj.declares_firstId
  next_edge := by simp [Journey.newState]
  next_first := by simp [Journey.newState, hj.head?_stepIds]
  ended := by simp [Journey.newState]

theorem step (hj : j.WellFormed) (hclosed : j.Closed) (h : j.Progress s)
    (hstep : j.GatedStep s s') : j.Progress s' := by
  obtain ⟨step, hmem, hdue, hexecuted, hcurrent, hedge, hended⟩ := hstep.progress
  have hfresh : step.id ∉ s.executed := by
    rcases shouldExecute_iff.1 hdue with ⟨hnil, -⟩ | ⟨hfresh, -⟩
    · simp [hnil]
    · exact hfresh
  have hlast : s'.executed.getLast? = some step.id := by
    rw [hexecuted, List.getLast?_concat]
  refine ⟨?_, ?_, ?_, ?_, ?_, ?_, ?_, ?_, ?_⟩
  · rw [hexecuted, ← List.concat_eq_append]
    exact h.nodup.concat hfresh
  · intro id hid
    rw [hexecuted, List.mem_append, List.mem_singleton] at hid
    rcases hid with hid | rfl
    · exact h.declared id hid
    · exact declares_iff.2 ⟨step, hmem, rfl⟩
  · intro id hid
    rw [hexecuted, List.head?_append] at hid
    cases hhead : s.executed.head? with
    | some first =>
      rw [hhead, Option.some_or] at hid
      exact h.starts id (hhead.trans hid)
    | none =>
      -- Nothing was executed, so only the first step can be due.
      have hnil := List.head?_eq_none_iff.1 hhead
      have hid' : step.id = id := by simpa [hhead] using hid
      rw [← hid']
      rcases shouldExecute_iff.1 hdue with ⟨-, hfirst⟩ | ⟨-, hnext⟩
      · rw [hfirst, hj.head?_stepIds]
      · rw [← h.next_first hnil, hnext]
  · rw [hexecuted, List.isChain_append]
    refine ⟨h.follows, List.isChain_singleton _, fun a ha b hb => ?_⟩
    cases hb
    rcases shouldExecute_iff.1 hdue with ⟨hnil, -⟩ | ⟨-, hnext⟩
    · simp [hnil] at ha
    · exact h.next_edge a step.id ha hnext
  · rw [hcurrent, hlast, Option.some_or]
  · intro id hid
    exact hclosed.declares_of_mem_edges hmem (hedge id hid)
  · intro last id hlast' hid
    cases hlast.symm.trans hlast'
    rw [hj.edgesOf_id hmem]
    exact hedge id hid
  · intro hnil
    simp [hexecuted] at hnil
  · intro last hlast' hnone
    cases hlast.symm.trans hlast'
    exact getLast?_of_idAfter_eq_none (List.mem_map_of_mem hmem) (hended hnone)

theorem run (hj : j.WellFormed) (hclosed : j.Closed) {bindings : Entries}
    (h : j.GatedRun (j.newState bindings) s) : j.Progress s := by
  induction h with
  | refl => exact newState hj bindings
  | tail _ hstep ih => exact ih.step hj hclosed hstep

/-- No two steps are due at once. -/
theorem due_unique (hj : j.WellFormed) (h : j.Progress s) {a b : String}
    (ha : j.shouldExecute s a = true) (hb : j.shouldExecute s b = true) : a = b := by
  have hnext : ∀ id, j.shouldExecute s id = true → s.nextStep = some id := by
    intro id hid
    rcases shouldExecute_iff.1 hid with ⟨hnil, rfl⟩ | ⟨-, hnext⟩
    · rw [h.next_first hnil, hj.head?_stepIds]
    · exact hnext
  exact Option.some.inj ((hnext a ha).symm.trans (hnext b hb))

end Progress

/-- Where a step was executed and none is next, no step is due, so that no run goes on. -/
theorem GatedRun.eq_of_ended {j : Journey} {s s' : FlowState} (hran : s.executed ≠ [])
    (hended : s.nextStep = none) (h : j.GatedRun s s') : s' = s := by
  induction h with
  | refl => rfl
  | tail _ hstep ih =>
    obtain ⟨step, -, hdue, -⟩ := hstep.progress
    rcases shouldExecute_iff.1 hdue with ⟨hnil, -⟩ | ⟨-, hnext⟩
    · exact absurd (ih ▸ hnil) hran
    · rw [ih, hended] at hnext
      cases hnext

/-- Every state that a gated run of a journey without structure errors reaches has made
    progress along a simple walk; at most one step is due in it; and once the journey has
    ended, no step is ever due again. -/
theorem gatedRun_progress {v : Value} {j : Journey} {bindings : Entries} {s : FlowState}
    (hread : Journey.read v = .accepted j) (hfindings : ∀ f ∈ j.findings, f.severity ≠ .error)
    (hrun : j.GatedRun (j.newState bindings) s) :
    j.Progress s ∧
      (∀ a b, j.shouldExecute s a = true → j.shouldExecute s b = true → a = b) ∧
      (s.executed ≠ [] → s.nextStep = none →
        ∀ s', j.GatedRun s s' → ∀ id, j.shouldExecute s' id = false) := by
  have hj := wellFormed_of_read hread
  have hprogress := Progress.run hj (closed_iff_no_error.2 hfindings) hrun
  refine ⟨hprogress, fun a b ha hb => hprogress.due_unique hj ha hb, ?_⟩
  intro hran hended s' hrun' id
  rw [GatedRun.eq_of_ended hran hended hrun', ← Bool.not_eq_true, shouldExecute_iff]
  simp [hran, hended]

/-! ## A journey that goes back -/

/-- A step with a plain request that names no step but where it goes on failure. -/
def plainStep (id : String) (onFailure : Option String) : Step where
  id := id
  name := none
  request := ⟨"GET", "/" ++ id, [], .null, none, [], none, none⟩
  extract := []
  thinkTime := none
  branches := []
  onSuccess := none
  onFailure := onFailure

def plainJourney (steps : List Step) : Journey where
  id := "shop"
  name := "Shop"
  description := none
  version := none
  baseUrl := none
  defaults := .none
  bindings := []
  steps := steps

def plainResponse (status : Int) : Response :=
  ⟨status, [], .null, Binary64.zero false⟩

/-- Two steps, of which the second one goes back to the first when it fails. -/
def retryJourney : Journey :=
  plainJourney [plainStep "create" none, plainStep "check" (some "create")]

/-- Both steps were executed, and the second one failed. -/
def stuckState : FlowState :=
  ⟨some "check", [], ["create", "check"], some "create"⟩

theorem read_retryJourney : Journey.read retryJourney.toValue = .accepted retryJourney := by
  cbv

theorem gatedRun_create :
    retryJourney.GatedRun (retryJourney.newState [])
      ⟨some "create", [], ["create"], some "check"⟩ :=
  .single (.process (plainStep "create" none) (plainResponse 200)
    List.mem_cons_self (by decide) rfl)

theorem gatedRun_stuckState :
    retryJourney.GatedRun (retryJourney.newState []) stuckState :=
  .tail gatedRun_create (.process (plainStep "check" (some "create")) (plainResponse 500)
    (List.mem_cons_of_mem _ List.mem_cons_self) (by decide) rfl)

/-- The step that is next in the stuck state was executed already, so none is due there. -/
theorem progress_stuckState :
    Journey.read retryJourney.toValue = .accepted retryJourney ∧
      (∀ f ∈ retryJourney.findings, f.severity ≠ .error) ∧
      retryJourney.GatedRun (retryJourney.newState []) stuckState ∧
      retryJourney.Progress stuckState ∧
      (∀ a b, retryJourney.shouldExecute stuckState a = true →
        retryJourney.shouldExecute stuckState b = true → a = b) :=
  have h := gatedRun_progress read_retryJourney (by decide) gatedRun_stuckState
  ⟨read_retryJourney, by decide, gatedRun_stuckState, h.1, h.2.1⟩

end ApiJourney.Journey
