-- SUMMARY: The findings of a journey are its dangling references; all steps are in reach.
import ApiJourney.Proofs.Flow.Run

/-!
# Findings

A finding is made for every reference to a step that is not declared, in the order in which the
references are written. The search for steps in reach takes ids from a stack. It passes over
those that it has met or that are not declared, and puts the targets of the others on the stack.
As every step has an edge to the one declared behind it, the search meets all of them, so that no
step is ever found out of reach.
-/

namespace ApiJourney.Journey

open Relation

variable {j : Journey} {id : String}

/-! ## Dangling references -/

/-- A step names another one, in a certain place. -/
structure Mention where
  step : String
  place : String
  target : String

/-- What is found where the target of a mention is not declared. -/
def Mention.finding (m : Mention) : Finding :=
  ⟨.error, some m.step, s!"{m.place} target '{m.target}' does not exist"⟩

/-- The mentions of a step in order: its branches, then where it goes on success and on failure. -/
def mentions (s : Step) : List Mention :=
  s.branches.map (fun b => ⟨s.id, "Branch", b.goto⟩)
    ++ (Text.given? s.onSuccess).toList.map (fun t => ⟨s.id, "onSuccess", t⟩)
    ++ (Text.given? s.onFailure).toList.map (fun t => ⟨s.id, "onFailure", t⟩)

/-- The mentions of steps that are not declared. -/
def undeclared (j : Journey) (ms : List Mention) : List Mention :=
  ms.filter fun m => !j.declares m.target

theorem undeclared_append (ms ms' : List Mention) :
    j.undeclared (ms ++ ms') = j.undeclared ms ++ j.undeclared ms' :=
  List.filter_append ms ms'

/-- The references of one kind dangle where their targets are not declared. -/
theorem flatMap_dangling (s : Step) (place : String) (target : α → String) (xs : List α) :
    xs.flatMap (fun x => j.dangling s place (target x))
      = (j.undeclared (xs.map fun x => ⟨s.id, place, target x⟩)).map Mention.finding := by
  induction xs with
  | nil => rfl
  | cons x xs ih =>
    rw [List.flatMap_cons, ih]
    cases h : j.declares (target x) <;> simp [dangling, undeclared, Mention.finding, h]

theorem danglingOf_eq (s : Step) :
    j.danglingOf s = (j.undeclared (mentions s)).map Mention.finding := by
  simp only [danglingOf, mentions, undeclared_append, List.map_append]
  congr 1
  · congr 1
    · exact flatMap_dangling s "Branch" Branch.goto s.branches
    · exact flatMap_dangling s "onSuccess" (fun t => t) (Text.given? s.onSuccess).toList
  · exact flatMap_dangling s "onFailure" (fun t => t) (Text.given? s.onFailure).toList

/-- The dangling references of all steps, in declared order. -/
theorem flatMap_danglingOf (steps : List Step) :
    steps.flatMap j.danglingOf
      = (j.undeclared (steps.flatMap mentions)).map Mention.finding := by
  induction steps with
  | nil => rfl
  | cons s steps ih =>
    rw [List.flatMap_cons, List.flatMap_cons, ih, danglingOf_eq, undeclared_append,
      List.map_append]

/-! ## The search -/

/-- A search that starts with a stack of ids and those met already, and comes to its end. -/
inductive Search (j : Journey) : List String → List String → List String → Prop where
  | done {met : List String} : Search j [] met met
  | pass {id : String} {stack met result : List String} :
      id ∈ met ∨ j.declares id = false → Search j stack met result →
      Search j (id :: stack) met result
  | visit {id : String} {stack met result : List String} :
      id ∉ met → j.declares id = true →
      Search j ((j.edgesOf id).reverse ++ stack) (id :: met) result →
      Search j (id :: stack) met result

/-- The edges of the steps that were not met yet. -/
def edgesAhead (j : Journey) (met : List String) : List String :=
  (j.steps.filter fun s => !met.contains s.id).flatMap j.edges

theorem exists_step_of_declares (h : j.declares id = true) : ∃ s, j.step? id = some s := by
  obtain ⟨s, hs, hid⟩ := declares_iff.1 h
  exact Option.isSome_iff_exists.1 (List.find?_isSome.2 ⟨s, hs, by simp [hid]⟩)

/-- A visit takes the edges that it puts on the stack from those that are ahead. -/
theorem length_edgesAhead_visit {met : List String} (hnew : id ∉ met)
    (hid : j.declares id = true) :
    (j.edgesAhead (id :: met)).length + (j.edgesOf id).length ≤ (j.edgesAhead met).length := by
  obtain ⟨s, hs⟩ := exists_step_of_declares hid
  obtain ⟨hsid, before, after, hsteps, -⟩ := List.find?_eq_some_iff_append.1 hs
  have hsid : s.id = id := by simpa using hsid
  have hedges : j.edgesOf id = j.edges s := by simp [edgesOf, hs]
  have hfewer : ∀ steps : List Step,
      ((steps.filter fun s => !(id :: met).contains s.id).flatMap j.edges).length
        ≤ ((steps.filter fun s => !met.contains s.id).flatMap j.edges).length := by
    intro steps
    refine ((List.monotone_filter_right steps ?_).flatMap j.edges).length_le
    intro s hs
    simp_all
  have hbefore := hfewer before
  have hafter := hfewer after
  simp only [edgesAhead, hsteps, hedges, List.filter_append, List.filter_cons, List.flatMap_append,
    List.length_append]
  simp [hsid, hnew] at hbefore hafter ⊢
  omega

/-- The search comes to its end if the fuel is more than what is on the stack and what can still
    be put there. -/
theorem search_reach {fuel : Nat} {stack met : List String}
    (h : stack.length + (j.edgesAhead met).length < fuel) :
    j.Search stack met (j.reach fuel stack met) := by
  induction fuel generalizing stack met with
  | zero => omega
  | succ fuel ih =>
    cases stack with
    | nil => exact .done
    | cons id stack =>
      rw [List.length_cons] at h
      by_cases hpass : id ∈ met ∨ j.declares id = false
      · have hreach : j.reach (fuel + 1) (id :: stack) met = j.reach fuel stack met := by
          rw [reach, if_pos (by simpa using hpass)]
        rw [hreach]
        exact .pass hpass (ih (by omega))
      · have hreach : j.reach (fuel + 1) (id :: stack) met
            = j.reach fuel ((j.edgesOf id).reverse ++ stack) (id :: met) := by
          rw [reach, if_neg (by simpa using hpass)]
        simp only [not_or, Bool.not_eq_false] at hpass
        -- Visiting a step moves its edges from those ahead onto the stack: the sum falls by one.
        have hahead := length_edgesAhead_visit hpass.1 hpass.2
        rw [hreach]
        refine .visit hpass.1 hpass.2 (ih ?_)
        rw [List.length_append, List.length_reverse]
        omega

theorem search_reachable (j : Journey) : j.Search [j.firstId] [] j.reachable := by
  apply search_reach
  have hall : j.edgesAhead [] = j.steps.flatMap j.edges := by simp [edgesAhead]
  rw [hall, List.length_singleton]
  omega

namespace Search

variable {stack met result : List String}

/-- The search has one result only. -/
theorem unique (h : j.Search stack met result) {other : List String}
    (hother : j.Search stack met other) : other = result := by
  induction h with
  | done =>
    cases hother
    rfl
  | pass hpass _ ih =>
    cases hother with
    | pass _ hrest => exact ih hrest
    | visit hnew hid _ => simp [hnew, hid] at hpass
  | visit hnew hid _ ih =>
    cases hother with
    | pass hpass _ => simp [hnew, hid] at hpass
    | visit _ _ hrest => exact ih hrest

theorem nodup (h : j.Search stack met result) (hmet : met.Nodup) : result.Nodup := by
  induction h with
  | done => exact hmet
  | pass _ _ ih => exact ih hmet
  | visit hnew _ _ ih => exact ih (List.nodup_cons.2 ⟨hnew, hmet⟩)

/-- What holds of declared ids on the stack, and is handed on along edges, holds of all that
    is met. -/
theorem sound (h : j.Search stack met result) {P : String → Prop}
    (hedge : ∀ a b, P a → b ∈ j.edgesOf a → P b) (hstack : ∀ id ∈ stack, P id)
    (hmet : ∀ id ∈ met, j.declares id = true ∧ P id) :
    ∀ id ∈ result, j.declares id = true ∧ P id := by
  induction h with
  | done => exact hmet
  | pass _ _ ih => exact ih (List.forall_mem_cons.1 hstack).2 hmet
  | visit _ hid _ ih =>
    obtain ⟨htop, hstack⟩ := List.forall_mem_cons.1 hstack
    refine ih ?_ (List.forall_mem_cons.2 ⟨⟨hid, htop⟩, hmet⟩)
    intro next hnext
    rcases List.mem_append.1 hnext with hnext | hnext
    · exact hedge _ _ htop (List.mem_reverse.1 hnext)
    · exact hstack next hnext

/-- The targets of what was met are met or on the stack, so that nothing is left out in the end. -/
theorem complete (h : j.Search stack met result)
    (hmet : ∀ a ∈ met, ∀ b ∈ j.edgesOf a, j.declares b = true → b ∈ met ∨ b ∈ stack) :
    met ⊆ result ∧ (∀ id ∈ stack, j.declares id = true → id ∈ result) ∧
      ∀ a ∈ result, ∀ b ∈ j.edgesOf a, j.declares b = true → b ∈ result := by
  -- What is met is closed under edges but for what still waits on the stack.
  induction h with
  | done => simpa using hmet
  | @pass top stack met result hpass _ ih =>
    obtain ⟨hsub, hstack, hclosed⟩ := ih (by
      intro a ha b hb hdeclared
      rcases hmet a ha b hb hdeclared with hmem | hmem
      · exact .inl hmem
      · rcases List.mem_cons.1 hmem with rfl | hmem
        · exact .inl (hpass.resolve_right (by simp [hdeclared]))
        · exact .inr hmem)
    refine ⟨hsub, ?_, hclosed⟩
    intro id hid hdeclared
    rcases List.mem_cons.1 hid with rfl | hid
    · exact hsub (hpass.resolve_right (by simp [hdeclared]))
    · exact hstack id hid hdeclared
  | @visit top stack met result hnew _ _ ih =>
    obtain ⟨hsub, hstack, hclosed⟩ := ih (by
      intro a ha b hb hdeclared
      rcases List.mem_cons.1 ha with rfl | ha
      · exact .inr (by simp [hb])
      · rcases hmet a ha b hb hdeclared with hmem | hmem
        · exact .inl (List.mem_cons_of_mem _ hmem)
        · rcases List.mem_cons.1 hmem with rfl | hmem
          · exact .inl List.mem_cons_self
          · exact .inr (List.mem_append_right _ hmem))
    refine ⟨fun id hid => hsub (List.mem_cons_of_mem _ hid), ?_, hclosed⟩
    intro id hid hdeclared
    rcases List.mem_cons.1 hid with rfl | hid
    · exact hsub List.mem_cons_self
    · exact hstack id (List.mem_append_right _ hid) hdeclared

end Search

/-! ## Reach -/

/-- A declared step that some way along edges leads to from the first one. -/
def InReach (j : Journey) (id : String) : Prop :=
  j.declares id = true ∧ ReflTransGen (fun a b => b ∈ j.edgesOf a) j.firstId id

theorem declares_of_mem_edgesOf {next : String} (h : next ∈ j.edgesOf id) :
    j.declares id = true := by
  unfold edgesOf at h
  cases hs : j.step? id with
  | none => simp [hs] at h
  | some s =>
    have hid : s.id = id := by simpa using List.find?_some hs
    exact declares_iff.2 ⟨s, List.mem_of_find?_eq_some hs, hid⟩

/-- The search meets exactly the steps in reach. -/
theorem mem_reachable_iff : id ∈ j.reachable ↔ j.InReach id := by
  have hsearch := j.search_reachable
  constructor
  · exact hsearch.sound (fun a b ha hb => ha.tail hb) (by simp [ReflTransGen.refl]) (by simp) id
  · rintro ⟨hid, hway⟩
    obtain ⟨-, hfirst, hclosed⟩ := hsearch.complete (by simp)
    induction hway with
    | refl => exact hfirst _ List.mem_cons_self hid
    | tail _ hedge ih => exact hclosed _ (ih (declares_of_mem_edgesOf hedge)) _ hedge hid

/-- The declared order is a way along edges. -/
theorem WellFormed.isChain_stepIds (hj : j.WellFormed) :
    j.stepIds.IsChain fun a b => b ∈ j.edgesOf a := by
  rw [List.isChain_iff_forall_rel_of_append_cons_cons]
  intro a b before after hids
  obtain ⟨s, hs, rfl⟩ := List.mem_map.1 (hids ▸ List.mem_append_right before List.mem_cons_self)
  rw [hj.edgesOf_id hs, mem_edges]
  exact .inr (hj.following?_eq hids)

theorem WellFormed.inReach (hj : j.WellFormed) (hid : j.declares id = true) : j.InReach id := by
  refine ⟨hid, hj.isChain_stepIds.induction (ReflTransGen _ j.firstId) j.stepIds ?_ ?_ id ?_⟩
  · exact fun _ _ hedge hway => hway.tail hedge
  · intro hne
    have hhead := hj.head?_stepIds
    rw [List.head?_eq_some_head hne, Option.some.injEq] at hhead
    rw [hhead]
  · simpa [declares] using hid

theorem WellFormed.unreachable_eq_nil (hj : j.WellFormed) : j.unreachable = [] := by
  rw [unreachable, List.map_eq_nil_iff, List.filter_eq_nil_iff]
  intro id hid
  have hdeclared : j.declares id = true := by simpa [declares] using hid
  simpa using mem_reachable_iff.2 (hj.inReach hdeclared)

/-! ## Exact findings -/

/-- The findings of an accepted journey are its dangling references, each once and in order, and
    nothing but errors. The search comes to an end, it meets exactly the steps in reach, each
    once, and these are all the declared ones. -/
theorem findings_exact {v : Value} (hread : Journey.read v = .accepted j) :
    j.findings = (j.undeclared (j.steps.flatMap mentions)).map Mention.finding ∧
      (∀ f ∈ j.findings, f.severity = .error) ∧
      (∀ result, j.Search [j.firstId] [] result ↔ result = j.reachable) ∧ j.reachable.Nodup ∧
      (∀ id, id ∈ j.reachable ↔ j.InReach id) ∧ ∀ id, id ∈ j.reachable ↔ id ∈ j.stepIds := by
  have hj := wellFormed_of_read hread
  have hfindings : j.findings = (j.undeclared (j.steps.flatMap mentions)).map Mention.finding := by
    rw [findings, hj.unreachable_eq_nil, List.append_nil, flatMap_danglingOf]
  refine ⟨hfindings, ?_, ?_, j.search_reachable.nodup List.nodup_nil, ?_, ?_⟩
  · intro f hf
    rw [hfindings] at hf
    obtain ⟨m, -, rfl⟩ := List.mem_map.1 hf
    rfl
  · intro result
    constructor
    · exact j.search_reachable.unique
    · rintro rfl
      exact j.search_reachable
  · exact fun id => mem_reachable_iff
  · intro id
    rw [mem_reachable_iff, ← List.contains_iff_mem]
    exact ⟨fun h => h.1, hj.inReach⟩

/-- Two steps. The first one has a branch to a step that is not declared and one back to itself,
    names nothing on success, and on failure another step that is not declared. -/
def brokenJourney : Journey :=
  plainJourney [
    { plainStep "create" (some "archive") with
      branches := [⟨⟨none, some 409, none, []⟩, "retry"⟩, ⟨⟨none, some 202, none, []⟩, "create"⟩]
      onSuccess := some "" },
    plainStep "report" (some "create")]

/-- The document of that journey. -/
def brokenDocument : Value :=
  .object [("id", .text "shop"), ("name", .text "Shop"), ("steps", .list [
    .object [
      ("id", .text "create"),
      ("request", .object [("method", .text "GET"), ("url", .text "/create")]),
      ("branches", .list [
        .object [("condition", .object [("status", .int 409)]), ("goto", .text "retry")],
        .object [("condition", .object [("status", .int 202)]), ("goto", .text "create")]]),
      ("onSuccess", .text ""), ("onFailure", .text "archive")],
    .object [
      ("id", .text "report"),
      ("request", .object [("method", .text "GET"), ("url", .text "/report")]),
      ("onFailure", .text "create")]])]

/-- The broken journey has two dangling references, and both of its steps are in reach. -/
theorem brokenJourney_findings :
    Journey.read brokenDocument = .accepted brokenJourney ∧
      brokenJourney.findings =
        [⟨.error, some "create", "Branch target 'retry' does not exist"⟩,
         ⟨.error, some "create", "onFailure target 'archive' does not exist"⟩] ∧
      brokenJourney.Search ["create"] [] brokenJourney.reachable ∧
      brokenJourney.reachable = ["report", "create"] ∧
      ∀ id, id ∈ brokenJourney.reachable ↔ brokenJourney.InReach id := by
  have hread : Journey.read brokenDocument = .accepted brokenJourney := by cbv
  obtain ⟨hfindings, -, hsearch, -, hreach, -⟩ := findings_exact hread
  refine ⟨hread, ?_, (hsearch _).2 rfl, by decide, hreach⟩
  rw [hfindings]
  decide

end ApiJourney.Journey
