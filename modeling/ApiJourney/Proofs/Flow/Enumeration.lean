-- SUMMARY: The enumeration gives the ways through a journey, each once and depth first.
import ApiJourney.Proofs.Flow.Paths
import ApiJourney.Proofs.Flow.Run

/-!
# Order and end of the enumeration

Where two enumerated paths part they follow two edges of one step, and the path along the
earlier edge is enumerated first. The steps taken are distinct and declared, so that no more of
them are taken than there are, and fuel beyond that is left over.
-/

namespace ApiJourney.Journey

open scoped List

/-! ## Order -/

/-- Two paths have some steps in common up to the one where they part, and there the first path
    follows an earlier edge than the second. -/
def Precedes (j : Journey) (p q : JourneyPath) : Prop :=
  ∃ common fork t u rest rest', p.steps = common ++ fork :: t :: rest ∧
    q.steps = common ++ fork :: u :: rest' ∧ [t, u] <+ j.edgesOf fork

variable {j : Journey} {taken : List String} {id : String}

theorem precedes_of_mem_pathsFrom {fuel : Nat} {t u : String} {p q : JourneyPath}
    (hp : p ∈ j.pathsFrom fuel (taken ++ [id]) t) (hq : q ∈ j.pathsFrom fuel (taken ++ [id]) u)
    (htu : [t, u] <+ j.edgesOf id) : j.Precedes p q := by
  obtain ⟨rest, hrest⟩ := steps_of_mem_pathsFrom hp
  obtain ⟨rest', hrest'⟩ := steps_of_mem_pathsFrom hq
  refine ⟨taken, id, t, u, rest, rest', ?_, ?_, htu⟩
  · rw [hrest, List.append_assoc, List.singleton_append]
  · rw [hrest', List.append_assoc, List.singleton_append]

theorem pairwise_precedes_pathsFrom (j : Journey) (fuel : Nat) (taken : List String)
    (id : String) : (j.pathsFrom fuel taken id).Pairwise j.Precedes := by
  induction fuel generalizing taken id with
  | zero => exact List.Pairwise.nil
  | succ fuel ih =>
    by_cases hmem : id ∈ taken
    · rw [pathsFrom_of_mem fuel hmem]
      exact List.pairwise_singleton _ _
    by_cases hend : j.targets id = []
    · rw [pathsFrom_of_end fuel hmem hend]
      exact List.pairwise_singleton _ _
    rw [pathsFrom_of_targets fuel hmem hend, List.pairwise_flatMap]
    refine ⟨fun t _ => ih (taken ++ [id]) t, ?_⟩
    rw [List.pairwise_iff_forall_sublist]
    intro t u htu p hp q hq
    exact precedes_of_mem_pathsFrom hp hq (htu.trans List.filter_sublist)

/-! ## End -/

/-- The paths on from a step are the same with any fuel that suffices. -/
theorem pathsFrom_eq_of_bounded {fuel fuel' : Nat} (h : j.Bounded fuel taken)
    (h' : j.Bounded fuel' taken) (hid : j.declares id = true) :
    j.pathsFrom fuel taken id = j.pathsFrom fuel' taken id := by
  induction fuel generalizing fuel' taken id with
  | zero => exact h.zero_elim.elim
  | succ fuel ih =>
    cases fuel' with
    | zero => exact h'.zero_elim.elim
    | succ fuel' =>
      by_cases hmem : id ∈ taken
      · rw [pathsFrom_of_mem fuel hmem, pathsFrom_of_mem fuel' hmem]
      by_cases hend : j.targets id = []
      · rw [pathsFrom_of_end fuel hmem hend, pathsFrom_of_end fuel' hmem hend]
      rw [pathsFrom_of_targets fuel hmem hend, pathsFrom_of_targets fuel' hmem hend]
      refine List.flatMap_congr fun t ht => ?_
      exact ih (h.take hid hmem) (h'.take hid hmem) (mem_targets.1 ht).2

/-! ## Exact enumeration -/

/-- The enumerated paths of an accepted journey are the ways through it, no two of them with the
    same steps, and each in front of those that part from it along later edges. More fuel makes
    no difference. -/
theorem paths_exact {v : Value} (hread : Journey.read v = .accepted j) :
    (∀ p, p ∈ j.paths ↔ j.IsWay p) ∧ (j.paths.map JourneyPath.steps).Nodup ∧
      j.paths.Pairwise j.Precedes ∧
      ∀ fuel, j.steps.length < fuel → j.pathsFrom fuel [] j.firstId = j.paths := by
  have hj := wellFormed_of_read hread
  refine ⟨fun p => mem_paths_iff hj, nodup_steps_paths j,
    pairwise_precedes_pathsFrom j _ _ _, fun fuel hfuel => ?_⟩
  have hbounded : j.Bounded fuel [] := { j.bounded_nil with fuel_lt := hfuel }
  exact pathsFrom_eq_of_bounded hbounded j.bounded_nil hj.declares_firstId

/-- Three steps: the first one passes over the second when it fails, the second one goes back,
    and the last one would go on to a step that is not declared. -/
def forkedJourney : Journey :=
  plainJourney [plainStep "create" (some "report"), plainStep "check" (some "create"),
    plainStep "report" (some "archive")]

/-- The forked journey has three paths, of which one meets itself. -/
theorem forkedJourney_paths :
    Journey.read forkedJourney.toValue = .accepted forkedJourney ∧
      forkedJourney.paths = [⟨["create", "report"], true, false⟩,
        ⟨["create", "check", "create"], false, true⟩,
        ⟨["create", "check", "report"], true, false⟩] ∧
      (∀ p, p ∈ forkedJourney.paths ↔ forkedJourney.IsWay p) ∧
      (forkedJourney.paths.map JourneyPath.steps).Nodup ∧
      forkedJourney.paths.Pairwise forkedJourney.Precedes ∧
      ∀ fuel, forkedJourney.steps.length < fuel →
        forkedJourney.pathsFrom fuel [] forkedJourney.firstId = forkedJourney.paths := by
  have hread : Journey.read forkedJourney.toValue = .accepted forkedJourney := by cbv
  exact ⟨hread, by decide, paths_exact hread⟩

end ApiJourney.Journey
