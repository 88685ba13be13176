-- SUMMARY: Edges lead to declared steps, and every transition follows an edge.
import ApiJourney.Flow.Process
import ApiJourney.Proofs.Journey.Acceptance

/-!
# Edges

The edges of a step are the targets that it names and the step declared behind it. In a
journey without dangling references all of them are declared, and whatever a response makes
of a step, the transition follows one of its edges or ends the journey.
-/

namespace ApiJourney.Journey

/-! ## The next declared step -/

theorem mem_of_idAfter {id next : String} {ids : List String} (h : idAfter id ids = some next) :
    next ∈ ids := by
  induction ids with
  | nil => simp [idAfter] at h
  | cons x rest ih =>
    rw [idAfter] at h
    split at h
    · exact List.mem_cons_of_mem _ (List.mem_of_head? h)
    · exact List.mem_cons_of_mem _ (ih h)

/-- Of distinct ids only the last one has none behind it. -/
theorem getLast?_of_idAfter_eq_none {id : String} {ids : List String} (hid : id ∈ ids)
    (h : idAfter id ids = none) : ids.getLast? = some id := by
  induction ids with
  | nil => simp at hid
  | cons x rest ih =>
    rw [idAfter] at h
    split at h
    · rename_i hx
      subst hx
      rw [List.head?_eq_none_iff] at h
      simp [h]
    · rename_i hx
      have hrest : id ∈ rest := (List.mem_cons.1 hid).resolve_left (Ne.symm hx)
      rw [List.getLast?_cons, ih hrest h, Option.getD_some]

theorem declares_of_following? {j : Journey} {id next : String}
    (h : j.following? id = some next) : j.declares next = true := by
  rw [declares, List.contains_iff_mem]
  exact mem_of_idAfter h

theorem idAfter_append {id : String} {before after : List String} (h : id ∉ before) :
    idAfter id (before ++ id :: after) = after.head? := by
  induction before with
  | nil => simp [idAfter]
  | cons x before ih =>
    simp only [List.mem_cons, not_or] at h
    rw [List.cons_append, idAfter, if_neg (Ne.symm h.1)]
    exact ih h.2

/-- The step declared behind a step, where the steps have distinct ids. -/
theorem WellFormed.following?_eq {j : Journey} (hj : j.WellFormed) {before after : List String}
    {id : String} (h : j.stepIds = before ++ id :: after) : j.following? id = after.head? := by
  have hnodup := hj.nodup_stepIds
  rw [h, List.nodup_middle, List.nodup_cons, List.mem_append, not_or] at hnodup
  rw [following?, h]
  exact idAfter_append hnodup.1.1

/-! ## References -/

/-- The ids that a step names: the targets of its branches, then where it goes on success
    and on failure. -/
def references (s : Step) : List String :=
  s.branches.map Branch.goto ++ (Text.given? s.onSuccess).toList
    ++ (Text.given? s.onFailure).toList

/-- No step names an id that is not declared. -/
def Closed (j : Journey) : Prop :=
  ∀ s ∈ j.steps, ∀ id ∈ references s, j.declares id = true

theorem dangling_eq_nil {j : Journey} {s : Step} {what target : String} :
    j.dangling s what target = [] ↔ j.declares target = true := by
  unfold dangling
  split <;> simp_all

theorem danglingOf_eq_nil {j : Journey} {s : Step} :
    j.danglingOf s = [] ↔ ∀ id ∈ references s, j.declares id = true := by
  simp only [danglingOf, references, List.append_eq_nil_iff, List.flatMap_eq_nil_iff,
    dangling_eq_nil, List.mem_append, List.mem_map, or_imp, forall_and, forall_exists_index,
    and_imp, forall_apply_eq_imp_iff₂]

theorem severity_of_mem_danglingOf {j : Journey} {s : Step} {f : Finding}
    (h : f ∈ j.danglingOf s) : f.severity = .error := by
  have hdangling : ∀ what target, f ∈ j.dangling s what target → f.severity = .error := by
    intro what target hf
    unfold dangling at hf
    split at hf
    · simp at hf
    · rw [List.mem_singleton.1 hf]
  simp only [danglingOf, List.mem_append, List.mem_flatMap] at h
  obtain (⟨_, _, hf⟩ | ⟨_, _, hf⟩) | ⟨_, _, hf⟩ := h
  all_goals exact hdangling _ _ hf

/-- The errors among the findings are the dangling references. -/
theorem closed_iff_no_error {j : Journey} :
    j.Closed ↔ ∀ f ∈ j.findings, f.severity ≠ .error := by
  constructor
  · intro hclosed f hf
    rcases List.mem_append.1 hf with hf | hf
    · obtain ⟨s, hs, hf⟩ := List.mem_flatMap.1 hf
      rw [danglingOf_eq_nil.2 (hclosed s hs)] at hf
      simp at hf
    · obtain ⟨id, -, rfl⟩ := List.mem_map.1 hf
      simp
  · intro hfindings s hs
    rw [← danglingOf_eq_nil]
    refine List.eq_nil_iff_forall_not_mem.2 fun f hf => ?_
    have hmem : f ∈ j.findings := List.mem_append_left _ (List.mem_flatMap.2 ⟨s, hs, hf⟩)
    exact hfindings f hmem (severity_of_mem_danglingOf hf)

/-! ## Edges -/

theorem mem_edges {j : Journey} {s : Step} {id : String} :
    id ∈ j.edges s ↔ id ∈ references s ∨ j.following? s.id = some id := by
  simp [edges, references, List.mem_eraseDups, or_assoc]

theorem nodup_edgesOf (j : Journey) (id : String) : (j.edgesOf id).Nodup := by
  unfold edgesOf
  cases j.step? id with
  | none => exact List.nodup_nil
  | some s => exact nodup_eraseDups _

theorem Closed.declares_of_mem_edges {j : Journey} (hj : j.Closed) {s : Step}
    (hs : s ∈ j.steps) {id : String} (h : id ∈ j.edges s) : j.declares id = true := by
  rcases mem_edges.1 h with h | h
  · exact hj s hs id h
  · exact declares_of_following? h

theorem Closed.declares_of_mem_edgesOf {j : Journey} (hj : j.Closed) {id next : String}
    (h : next ∈ j.edgesOf id) : j.declares next = true := by
  unfold edgesOf at h
  cases hs : j.step? id with
  | none => simp [hs] at h
  | some s =>
    rw [hs, Option.map_some, Option.getD_some] at h
    exact hj.declares_of_mem_edges (List.mem_of_find?_eq_some hs) h

/-! ## Transitions -/

theorem mem_of_takenBranch? {r : Response} {bs : List Branch} {b : Branch}
    (h : takenBranch? r bs = .ok (some b)) : b ∈ bs := by
  induction bs with
  | nil => cases h
  | cons b' rest ih =>
    rw [takenBranch?] at h
    cases hmet : b'.condition.isMet r with
    | error f =>
      rw [hmet] at h
      cases h
    | ok met =>
      rw [hmet] at h
      cases met with
      | true =>
        cases h
        exact List.mem_cons_self
      | false => exact List.mem_cons_of_mem _ (ih h)

/-- A transition is that of a branch of the step, or the one without branches. -/
theorem transition_cases {j : Journey} {s : Step} {r : Response} {t : Transition}
    (h : j.transition s r = .ok t) :
    (∃ b ∈ s.branches, t = branchTransition b) ∨ t = j.plainTransition s r := by
  unfold transition at h
  cases htaken : takenBranch? r s.branches with
  | error f =>
    rw [htaken] at h
    cases h
  | ok found =>
    rw [htaken] at h
    cases found with
    | none =>
      cases h
      exact .inr rfl
    | some b =>
      refine .inl ⟨b, mem_of_takenBranch? htaken, ?_⟩
      -- The words of the condition are only made for the record.
      cases hwords : b.condition.describe with
      | error f =>
        simp only [bind, Except.bind, hwords] at h
        cases h
      | ok words =>
        simp only [bind, Except.bind, hwords] at h
        cases h
        rfl

theorem plainTransition_nextStep (j : Journey) (s : Step) (r : Response) :
    (j.plainTransition s r).nextStep
      = (Text.given? (if r.isSuccess then s.onSuccess else s.onFailure)).or
          (j.following? s.id) := by
  simp only [plainTransition]
  cases Text.given? (if r.isSuccess then s.onSuccess else s.onFailure) with
  | some target => rfl
  | none => cases j.following? s.id <;> rfl

theorem mem_edges_of_transition {j : Journey} {s : Step} {r : Response} {t : Transition}
    (h : j.transition s r = .ok t) {id : String} (hnext : t.nextStep = some id) :
    id ∈ j.edges s := by
  rw [mem_edges]
  rcases transition_cases h with ⟨b, hb, rfl⟩ | rfl
  · cases hnext
    simp only [references, List.mem_append, List.mem_map]
    exact .inl (.inl (.inl ⟨b, hb, rfl⟩))
  · rw [plainTransition_nextStep, Option.or_eq_some_iff] at hnext
    rcases hnext with hnext | ⟨-, hnext⟩
    · cases hr : r.isSuccess <;> simp_all [references]
    · exact .inr hnext

/-- Only behind the last declared step does a transition end the journey. -/
theorem following?_of_transition {j : Journey} {s : Step} {r : Response} {t : Transition}
    (h : j.transition s r = .ok t) (hnext : t.nextStep = none) :
    j.following? s.id = none := by
  rcases transition_cases h with ⟨b, -, rfl⟩ | rfl
  · cases hnext
  · rw [plainTransition_nextStep, Option.or_eq_none_iff] at hnext
    exact hnext.2

end ApiJourney.Journey
