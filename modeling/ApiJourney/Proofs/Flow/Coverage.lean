-- SUMMARY: Gated runs stay on enumerated paths, and which of them are such paths as a whole.
import ApiJourney.Proofs.Flow.Paths
import ApiJourney.Proofs.Flow.Run

/-!
# Runs on enumerated paths

The enumeration knows edges only. What a gated run has executed begins one of its paths at
every moment, and a run that comes back to a step closes the path with that cycle. A run
that has ended is a complete path when no edge leads on from its last step. When one does,
and the response did not take it, the enumeration goes on where the run has ended.
-/

namespace ApiJourney.Journey

variable {v : Value} {j : Journey} {bindings : Entries} {s : FlowState}

namespace Progress

theorem follows_targets (h : j.Progress s) (hclosed : j.Closed) :
    s.executed.IsChain fun a b => b ∈ j.targets a :=
  h.follows.imp fun _ _ hedge => hclosed.mem_targets_iff.2 hedge

theorem head?_eq (h : j.Progress s) (hj : j.WellFormed) {first : String}
    (hfirst : s.executed.head? = some first) : s.executed.head? = some j.firstId := by
  rw [hfirst, ← hj.head?_stepIds, h.starts first hfirst]

/-- What was executed begins an enumerated path. -/
theorem exists_path (h : j.Progress s) (hj : j.WellFormed) (hclosed : j.Closed) :
    ∃ p ∈ j.paths, s.executed <+: p.steps := by
  rcases List.eq_nil_or_concat' s.executed with hnil | ⟨taken, last, hexecuted⟩
  · obtain ⟨p, hp⟩ := List.exists_mem_of_ne_nil _
      (pathsFrom_ne_nil j.bounded_nil hj.declares_firstId)
    exact ⟨p, hp, by simp [hnil]⟩
  · obtain ⟨first, hfirst⟩ : ∃ first, s.executed.head? = some first := by
      rw [hexecuted]
      cases taken <;> simp
    have hstarts := h.head?_eq hj hfirst
    have hchain := h.follows_targets hclosed
    have hnodup := h.nodup
    have hdeclared := h.declared
    rw [hexecuted] at hstarts hchain hnodup hdeclared ⊢
    exact exists_path_of_walk hj (List.nodup_append.1 hnodup).1
      (fun x hx => hdeclared x (List.mem_append_left _ hx)) (hdeclared last (by simp))
      hstarts hchain

/-- A walk and the step that it comes back to are a way. -/
theorem isWay_meets (h : j.Progress s) (hj : j.WellFormed) (hclosed : j.Closed) {next : String}
    (hnext : s.nextStep = some next) (hmem : next ∈ s.executed) :
    j.IsWay ⟨s.executed ++ [next], false, true⟩ where
  starts := by
    obtain ⟨first, hfirst⟩ : ∃ first, s.executed.head? = some first :=
      ⟨_, List.head?_eq_some_head (List.ne_nil_of_mem hmem)⟩
    show (s.executed ++ [next]).head? = _
    rw [List.head?_append, h.head?_eq hj hfirst, Option.some_or]
  follows := by
    refine List.isChain_append.2
      ⟨h.follows_targets hclosed, List.isChain_singleton _, fun last hlast id hid => ?_⟩
    cases hid
    exact hclosed.mem_targets_iff.2 (h.next_edge last next hlast hnext)
  closing := .meets h.nodup hmem

/-- A walk to a step from which no edge leads on is a complete way. -/
theorem isWay_ends (h : j.Progress s) (hj : j.WellFormed) (hclosed : j.Closed) {last : String}
    (hlast : s.executed.getLast? = some last) (hend : j.edgesOf last = []) :
    j.IsWay ⟨s.executed, true, false⟩ where
  starts := by
    have hne : s.executed ≠ [] := by
      intro hnil
      simp [hnil] at hlast
    exact h.head?_eq hj (List.head?_eq_some_head hne)
  follows := h.follows_targets hclosed
  closing := by
    obtain ⟨taken, htaken⟩ := List.getLast?_eq_some_iff.1 hlast
    have hnodup := h.nodup
    rw [htaken, ← List.concat_eq_append, List.nodup_concat] at hnodup
    rw [htaken]
    exact .ends hnodup.2 hnodup.1 (by simp [targets, hend])

/-- No path has the steps of a walk to a step from which an edge leads on. -/
theorem steps_ne (h : j.Progress s) (hj : j.WellFormed) (hclosed : j.Closed) {last : String}
    (hlast : s.executed.getLast? = some last) (hgoes : j.edgesOf last ≠ []) :
    ∀ p ∈ j.paths, p.steps ≠ s.executed := by
  intro p hp hsteps
  obtain ⟨taken, htaken⟩ := List.getLast?_eq_some_iff.1 hlast
  have hfresh : last ∉ taken := by
    have hnodup := h.nodup
    rw [htaken, ← List.concat_eq_append, List.nodup_concat] at hnodup
    exact hnodup.1
  rcases ((mem_paths_iff hj).1 hp).closing.eq_of_steps (hsteps.trans htaken) with
    ⟨hmem, -⟩ | ⟨-, hend, -⟩
  · exact hfresh hmem
  · obtain ⟨next, hnext⟩ := List.exists_mem_of_ne_nil _ hgoes
    rw [← hclosed.mem_targets_iff, hend] at hnext
    simp at hnext

end Progress

/-! ## Runs under way -/

/-- At every moment the executed steps of a gated run begin an enumerated path. When the step
    that is next was executed already, these steps and that one are the steps of exactly one
    path, which has a cycle. -/
theorem gatedRun_begins_path (hread : Journey.read v = .accepted j) (hclosed : j.Closed)
    (hrun : j.GatedRun (j.newState bindings) s) :
    (∃ p ∈ j.paths, s.executed <+: p.steps) ∧
      ∀ next, s.nextStep = some next → next ∈ s.executed →
        j.paths.filter (fun p => p.steps = s.executed ++ [next])
          = [⟨s.executed ++ [next], false, true⟩] := by
  have hj := wellFormed_of_read hread
  have hprogress := Progress.run hj hclosed hrun
  refine ⟨hprogress.exists_path hj hclosed, fun next hnext hmem => ?_⟩
  exact (hprogress.isWay_meets hj hclosed hnext hmem).filter_paths hj

/-- The retried journey is stuck on its only path. -/
theorem stuckState_begins_path :
    Journey.read retryJourney.toValue = .accepted retryJourney ∧ retryJourney.Closed ∧
      retryJourney.GatedRun (retryJourney.newState []) stuckState ∧
      (∃ p ∈ retryJourney.paths, ["create", "check"] <+: p.steps) ∧
      retryJourney.paths.filter (fun p => p.steps = ["create", "check", "create"])
        = [⟨["create", "check", "create"], false, true⟩] :=
  have hclosed : retryJourney.Closed := closed_iff_no_error.2 (by decide)
  have h := gatedRun_begins_path read_retryJourney hclosed gatedRun_stuckState
  ⟨read_retryJourney, hclosed, gatedRun_stuckState, h.1, h.2 "create" rfl (by decide)⟩

/-! ## Runs that have ended -/

/-- A gated run that has ended stands at the last declared step. When no edge leads on from
    there, what it executed is a complete path without a cycle; otherwise it is none of the
    paths as a whole, but begins one. -/
theorem endedRun_complete_path (hread : Journey.read v = .accepted j) (hclosed : j.Closed)
    (hrun : j.GatedRun (j.newState bindings) s) (hran : s.executed ≠ [])
    (hended : s.nextStep = none) :
    ∃ last, s.executed.getLast? = some last ∧ j.stepIds.getLast? = some last ∧
      (j.edgesOf last = [] → ⟨s.executed, true, false⟩ ∈ j.paths) ∧
      (j.edgesOf last ≠ [] →
        (∀ p ∈ j.paths, p.steps ≠ s.executed) ∧ ∃ p ∈ j.paths, s.executed <+: p.steps) := by
  have hj := wellFormed_of_read hread
  have hprogress := Progress.run hj hclosed hrun
  obtain ⟨last, hlast⟩ : ∃ last, s.executed.getLast? = some last :=
    ⟨_, List.getLast?_eq_some_getLast hran⟩
  refine ⟨last, hlast, hprogress.ended last hlast hended, fun hend => ?_, fun hgoes => ?_⟩
  · exact (mem_paths_iff hj).2 (hprogress.isWay_ends hj hclosed hlast hend)
  · exact ⟨hprogress.steps_ne hj hclosed hlast hgoes, hprogress.exists_path hj hclosed⟩

/-- Three steps, of which the second one is passed over when the first one fails. -/
def skipJourney : Journey :=
  plainJourney
    [plainStep "create" (some "report"), plainStep "check" none, plainStep "report" none]

/-- A failed first step leads straight to the last one, and from there no edge leads on. -/
theorem skipJourney_complete_path :
    Journey.read skipJourney.toValue = .accepted skipJourney ∧ skipJourney.Closed ∧
      skipJourney.GatedRun (skipJourney.newState [])
        ⟨some "report", [], ["create", "report"], none⟩ ∧
      ⟨["create", "report"], true, false⟩ ∈ skipJourney.paths := by
  have hread : Journey.read skipJourney.toValue = .accepted skipJourney := by cbv
  have hclosed : skipJourney.Closed := closed_iff_no_error.2 (by decide)
  have hcreate : skipJourney.GatedRun (skipJourney.newState [])
      ⟨some "create", [], ["create"], some "report"⟩ :=
    .single (.process (plainStep "create" (some "report")) (plainResponse 500)
      List.mem_cons_self (by decide) rfl)
  have hrun := hcreate.tail (.process (plainStep "report" none) (plainResponse 200)
    (List.mem_cons_of_mem _ (List.mem_cons_of_mem _ List.mem_cons_self)) (by decide) rfl)
  obtain ⟨last, hlast, -, hcomplete, -⟩ :=
    endedRun_complete_path hread hclosed hrun (by decide) rfl
  cases hlast
  exact ⟨hread, hclosed, hrun, hcomplete (by decide)⟩

/-- A run that has ended need not be an enumerated path: where the second step of the retried
    journey succeeds the journey is over, and its only path goes back to the first step. -/
theorem retryJourney_ends_off_paths :
    Journey.read retryJourney.toValue = .accepted retryJourney ∧ retryJourney.Closed ∧
      retryJourney.GatedRun (retryJourney.newState [])
        ⟨some "check", [], ["create", "check"], none⟩ ∧
      ¬ ∃ p ∈ retryJourney.paths,
        p.steps = ["create", "check"] ∧ p.isComplete = true ∧ p.hasCycle = false := by
  refine ⟨read_retryJourney, closed_iff_no_error.2 (by decide), ?_, by decide⟩
  exact gatedRun_create.tail (.process (plainStep "check" (some "create")) (plainResponse 200)
    (List.mem_cons_of_mem _ List.mem_cons_self) (by decide) rfl)

end ApiJourney.Journey
