-- SUMMARY: The enumerated paths are exactly the simple walks that meet themselves or cannot go on.
import ApiJourney.Proofs.Flow.Edges

/-!
# Enumerated paths

The enumeration follows the edges to declared steps, depth first. It has a path for every
walk from the first step that is simple up to its last step and ends there, because that
step was on the walk already or because no edge leads on, and it has no two paths with the
same steps.
-/

namespace ApiJourney.Journey

/-- The declared steps that edges lead to. -/
def targets (j : Journey) (id : String) : List String :=
  (j.edgesOf id).filter j.declares

theorem mem_targets {j : Journey} {id next : String} :
    next ∈ j.targets id ↔ next ∈ j.edgesOf id ∧ j.declares next = true := by
  simp [targets]

theorem Closed.mem_targets_iff {j : Journey} (hj : j.Closed) {id next : String} :
    next ∈ j.targets id ↔ next ∈ j.edgesOf id := by
  rw [mem_targets]
  exact ⟨fun h => h.1, fun h => ⟨h, hj.declares_of_mem_edgesOf h⟩⟩

/-! ## One step of the enumeration -/

section Unfolding

variable {j : Journey} {taken : List String} {id : String} (fuel : Nat)

theorem pathsFrom_of_mem (h : id ∈ taken) :
    j.pathsFrom (fuel + 1) taken id = [⟨taken ++ [id], false, true⟩] := by
  simp [pathsFrom, h]

theorem pathsFrom_of_end (h : id ∉ taken) (hend : j.targets id = []) :
    j.pathsFrom (fuel + 1) taken id = [⟨taken ++ [id], true, false⟩] := by
  unfold targets at hend
  simp only [pathsFrom, List.contains_iff_mem, h, if_false, hend]

theorem pathsFrom_of_targets (h : id ∉ taken) (hgoes : j.targets id ≠ []) :
    j.pathsFrom (fuel + 1) taken id
      = (j.targets id).flatMap (j.pathsFrom fuel (taken ++ [id])) := by
  unfold targets at hgoes ⊢
  simp only [pathsFrom, List.contains_iff_mem, h, if_false]

/-- All paths on from a step go through the steps taken and that step. -/
theorem steps_of_mem_pathsFrom {fuel : Nat} {p : JourneyPath} (hp : p ∈ j.pathsFrom fuel taken id) :
    ∃ rest, p.steps = taken ++ id :: rest := by
  induction fuel generalizing taken id with
  | zero => simp [pathsFrom] at hp
  | succ fuel ih =>
    by_cases hmem : id ∈ taken
    · rw [pathsFrom_of_mem fuel hmem, List.mem_singleton] at hp
      exact ⟨[], by rw [hp]⟩
    · by_cases hend : j.targets id = []
      · rw [pathsFrom_of_end fuel hmem hend, List.mem_singleton] at hp
        exact ⟨[], by rw [hp]⟩
      · rw [pathsFrom_of_targets fuel hmem hend, List.mem_flatMap] at hp
        obtain ⟨t, -, hp⟩ := hp
        obtain ⟨rest, hrest⟩ := ih hp
        exact ⟨t :: rest, by rw [hrest, List.append_assoc, List.singleton_append]⟩

end Unfolding

/-! ## Ways -/

/-- A path that is simple up to its last step, where it meets itself or cannot go on. -/
inductive Closing (j : Journey) : JourneyPath → Prop where
  | meets {taken : List String} {id : String} :
      taken.Nodup → id ∈ taken → Closing j ⟨taken ++ [id], false, true⟩
  | ends {taken : List String} {id : String} :
      taken.Nodup → id ∉ taken → j.targets id = [] → Closing j ⟨taken ++ [id], true, false⟩

/-- A way through a journey: it starts at the first step, follows edges to declared steps,
    and goes on as far as it can. -/
structure IsWay (j : Journey) (p : JourneyPath) : Prop where
  starts : p.steps.head? = some j.firstId
  follows : p.steps.IsChain fun a b => b ∈ j.targets a
  closing : j.Closing p

/-- A list with a last step, read as one that goes on behind some step. -/
theorem concat_eq_append_cons {xs ys rest : List α} {a b : α} (h : xs ++ [a] = ys ++ b :: rest) :
    (rest = [] ∧ xs = ys ∧ a = b) ∨ ∃ mid, rest = mid ++ [a] ∧ xs = ys ++ b :: mid := by
  rcases List.eq_nil_or_concat' rest with rfl | ⟨mid, c, rfl⟩
  · obtain ⟨hxs, hab⟩ := List.append_inj' h rfl
    exact .inl ⟨rfl, hxs, by simpa using hab⟩
  · rw [← List.cons_append, ← List.append_assoc] at h
    obtain ⟨hxs, hac⟩ := List.append_inj' h rfl
    exact .inr ⟨mid, by simpa using hac.symm, hxs⟩

/-- A closing path ends at the first step that was taken already. -/
theorem Closing.rest_eq_nil {j : Journey} {p : JourneyPath} {taken rest : List String}
    {id : String} (h : j.Closing p) (hmem : id ∈ taken) (hsteps : p.steps = taken ++ id :: rest) :
    rest = [] := by
  have hsimple : ∀ {xs : List String} {a : String}, xs.Nodup → xs ++ [a] = taken ++ id :: rest →
      rest = [] := by
    intro xs a hxs heq
    rcases concat_eq_append_cons heq with ⟨hrest, -, -⟩ | ⟨mid, -, rfl⟩
    · exact hrest
    · exact absurd rfl ((List.nodup_append.1 hxs).2.2 id hmem id List.mem_cons_self)
  cases h with
  | meets hnodup => exact hsimple hnodup hsteps
  | ends hnodup => exact hsimple hnodup hsteps

/-- A closing path that ends at some step carries the marks of that end. -/
theorem Closing.eq_of_steps {j : Journey} {p : JourneyPath} {taken : List String} {id : String}
    (h : j.Closing p) (hsteps : p.steps = taken ++ [id]) :
    (id ∈ taken ∧ p = ⟨taken ++ [id], false, true⟩) ∨
      (id ∉ taken ∧ j.targets id = [] ∧ p = ⟨taken ++ [id], true, false⟩) := by
  cases h with
  | meets hnodup hmem =>
    obtain ⟨rfl, hid⟩ := List.append_inj' hsteps rfl
    cases hid
    exact .inl ⟨hmem, rfl⟩
  | ends hnodup hmem hend =>
    obtain ⟨rfl, hid⟩ := List.append_inj' hsteps rfl
    cases hid
    exact .inr ⟨hmem, hend, rfl⟩

/-! ## Exactness -/

variable {j : Journey} {taken : List String} {id : String} {fuel : Nat}

theorem length_le_of_declared (hnodup : taken.Nodup)
    (hdeclared : ∀ x ∈ taken, j.declares x = true) : taken.length ≤ j.steps.length := by
  have hsubset : taken ⊆ j.stepIds := fun x hx => by
    simpa [declares] using hdeclared x hx
  simpa [stepIds] using hnodup.length_le_of_subset hsubset

/-- What is kept when the enumeration takes a further step: the steps taken are distinct and
    declared, and the steps that are left bound how far it still goes. -/
structure Bounded (j : Journey) (fuel : Nat) (taken : List String) : Prop where
  nodup : taken.Nodup
  declared : ∀ x ∈ taken, j.declares x = true
  fuel_lt : j.steps.length < fuel + taken.length

theorem Bounded.zero_elim (h : j.Bounded 0 taken) : False := by
  have hle := length_le_of_declared h.nodup h.declared
  have hlt := h.fuel_lt
  omega

theorem Bounded.take (h : j.Bounded (fuel + 1) taken) (hid : j.declares id = true)
    (hmem : id ∉ taken) : j.Bounded fuel (taken ++ [id]) where
  nodup := by
    rw [← List.concat_eq_append]
    exact h.nodup.concat hmem
  declared := by
    intro x hx
    rw [List.mem_append, List.mem_singleton] at hx
    rcases hx with hx | rfl
    · exact h.declared x hx
    · exact hid
  fuel_lt := by
    have hlt := h.fuel_lt
    rw [List.length_append, List.length_singleton]
    omega

theorem mem_pathsFrom_iff (hbound : j.Bounded fuel taken) (hid : j.declares id = true)
    {p : JourneyPath} :
    p ∈ j.pathsFrom fuel taken id ↔
      ∃ rest, p.steps = taken ++ id :: rest ∧
        (id :: rest).IsChain (fun a b => b ∈ j.targets a) ∧ j.Closing p := by
  induction fuel generalizing taken id with
  | zero => exact hbound.zero_elim.elim
  | succ fuel ih =>
    -- The search stops at a step it has met and at a step without targets; else it branches.
    by_cases hmem : id ∈ taken
    · rw [pathsFrom_of_mem fuel hmem, List.mem_singleton]
      constructor
      · rintro rfl
        exact ⟨[], rfl, List.isChain_singleton _, .meets hbound.nodup hmem⟩
      · rintro ⟨rest, hsteps, -, hclosing⟩
        cases hclosing.rest_eq_nil hmem hsteps
        rcases hclosing.eq_of_steps hsteps with ⟨-, hp⟩ | ⟨hfresh, -⟩
        · exact hp
        · exact absurd hmem hfresh
    by_cases hend : j.targets id = []
    · rw [pathsFrom_of_end fuel hmem hend, List.mem_singleton]
      constructor
      · rintro rfl
        exact ⟨[], rfl, List.isChain_singleton _, .ends hbound.nodup hmem hend⟩
      · rintro ⟨rest, hsteps, hchain, hclosing⟩
        cases rest with
        | nil =>
          rcases hclosing.eq_of_steps hsteps with ⟨hmem', -⟩ | ⟨-, -, hp⟩
          · exact absurd hmem' hmem
          · exact hp
        | cons t rest =>
          have ht := (List.isChain_cons_cons.1 hchain).1
          simp [hend] at ht
    · rw [pathsFrom_of_targets fuel hmem hend, List.mem_flatMap]
      -- The bound is what the recursion spends: `id` is fresh, so the steps taken grow by one.
      have hnext : ∀ t ∈ j.targets id, (p ∈ j.pathsFrom fuel (taken ++ [id]) t ↔
          ∃ rest, p.steps = taken ++ [id] ++ t :: rest ∧
            (t :: rest).IsChain (fun a b => b ∈ j.targets a) ∧ j.Closing p) :=
        fun t ht => ih (hbound.take hid hmem) (mem_targets.1 ht).2
      constructor
      · rintro ⟨t, ht, hp⟩
        obtain ⟨rest, hsteps, hchain, hclosing⟩ := (hnext t ht).1 hp
        refine ⟨t :: rest, ?_, List.isChain_cons_cons.2 ⟨ht, hchain⟩, hclosing⟩
        rw [hsteps, List.append_assoc, List.singleton_append]
      · rintro ⟨rest, hsteps, hchain, hclosing⟩
        cases rest with
        | nil =>
          rcases hclosing.eq_of_steps hsteps with ⟨hmem', -⟩ | ⟨-, hend', -⟩
          · exact absurd hmem' hmem
          · exact absurd hend' hend
        | cons t rest =>
          obtain ⟨ht, hchain⟩ := List.isChain_cons_cons.1 hchain
          refine ⟨t, ht, (hnext t ht).2 ⟨rest, ?_, hchain, hclosing⟩⟩
          rw [hsteps, List.append_assoc, List.singleton_append]

theorem bounded_nil (j : Journey) : j.Bounded (j.steps.length + 1) [] where
  nodup := List.nodup_nil
  declared := by simp
  fuel_lt := by simp

/-- The enumerated paths are the ways through the journey. -/
theorem mem_paths_iff (hj : j.WellFormed) {p : JourneyPath} : p ∈ j.paths ↔ j.IsWay p := by
  rw [paths, mem_pathsFrom_iff j.bounded_nil hj.declares_firstId]
  constructor
  · rintro ⟨rest, hsteps, hchain, hclosing⟩
    rw [List.nil_append] at hsteps
    exact ⟨by rw [hsteps, List.head?_cons], by rw [hsteps]; exact hchain, hclosing⟩
  · rintro ⟨hstarts, hchain, hclosing⟩
    obtain ⟨rest, hsteps⟩ := List.head?_eq_some_iff.1 hstarts
    exact ⟨rest, hsteps, hsteps ▸ hchain, hclosing⟩

/-! ## No path twice -/

theorem nodup_steps_pathsFrom (j : Journey) (fuel : Nat) (taken : List String) (id : String) :
    ((j.pathsFrom fuel taken id).map JourneyPath.steps).Nodup := by
  induction fuel generalizing taken id with
  | zero => simp [pathsFrom]
  | succ fuel ih =>
    by_cases hmem : id ∈ taken
    · simp [pathsFrom_of_mem fuel hmem]
    by_cases hend : j.targets id = []
    · simp [pathsFrom_of_end fuel hmem hend]
    rw [pathsFrom_of_targets fuel hmem hend, List.map_flatMap, List.nodup_flatMap]
    refine ⟨fun t _ => ih _ t, ?_⟩
    have hnodup : (j.targets id).Nodup := (nodup_edgesOf j id).filter _
    refine hnodup.imp fun {a b} hne => ?_
    -- Behind the steps taken, the paths through two targets part at once.
    rw [Function.onFun, List.disjoint_left]
    intro steps ha hb
    obtain ⟨p, hp, rfl⟩ := List.mem_map.1 ha
    obtain ⟨q, hq, hqp⟩ := List.mem_map.1 hb
    obtain ⟨rest, hrest⟩ := steps_of_mem_pathsFrom hp
    obtain ⟨rest', hrest'⟩ := steps_of_mem_pathsFrom hq
    rw [hrest, hrest'] at hqp
    exact hne (List.cons.inj (List.append_cancel_left hqp)).1.symm

theorem nodup_steps_paths (j : Journey) : (j.paths.map JourneyPath.steps).Nodup :=
  nodup_steps_pathsFrom j _ _ _

theorem filter_eq_singleton [DecidableEq β] {f : α → β} {xs : List α} (h : (xs.map f).Nodup)
    {x : α} (hx : x ∈ xs) : xs.filter (fun y => f y = f x) = [x] := by
  induction xs with
  | nil => simp at hx
  | cons y rest ih =>
    rw [List.map_cons, List.nodup_cons] at h
    rcases List.mem_cons.1 hx with rfl | hx
    · have hrest : rest.filter (fun y => f y = f x) = [] := by
        rw [List.filter_eq_nil_iff]
        intro y hy
        simpa using fun heq => h.1 (List.mem_map.2 ⟨y, hy, heq⟩)
      rw [List.filter_cons_of_pos (by simp), hrest]
    · have hne : f y ≠ f x := fun heq => h.1 (heq ▸ List.mem_map_of_mem hx)
      rw [List.filter_cons_of_neg (by simpa using hne), ih h.2 hx]

/-- Of all enumerated paths only one has the steps of a way. -/
theorem IsWay.filter_paths (hj : j.WellFormed) {p : JourneyPath} (h : j.IsWay p) :
    j.paths.filter (fun q => q.steps = p.steps) = [p] :=
  filter_eq_singleton (nodup_steps_paths j) ((mem_paths_iff hj).2 h)

/-! ## Walks -/

theorem pathsFrom_ne_nil (hbound : j.Bounded fuel taken) (hid : j.declares id = true) :
    j.pathsFrom fuel taken id ≠ [] := by
  induction fuel generalizing taken id with
  | zero => exact hbound.zero_elim.elim
  | succ fuel ih =>
    by_cases hmem : id ∈ taken
    · simp [pathsFrom_of_mem fuel hmem]
    by_cases hend : j.targets id = []
    · simp [pathsFrom_of_end fuel hmem hend]
    rw [pathsFrom_of_targets fuel hmem hend]
    obtain ⟨t, ht⟩ := List.exists_mem_of_ne_nil _ hend
    obtain ⟨p, hp⟩ := List.exists_mem_of_ne_nil _
      (ih (hbound.take hid hmem) (mem_targets.1 ht).2)
    exact List.ne_nil_of_mem (List.mem_flatMap.2 ⟨t, ht, hp⟩)

/-- Every walk that is simple up to its last step begins some enumerated path. -/
theorem exists_path_of_walk (hj : j.WellFormed) (hnodup : taken.Nodup)
    (hdeclared : ∀ x ∈ taken, j.declares x = true) (hid : j.declares id = true)
    (hstarts : (taken ++ [id]).head? = some j.firstId)
    (hchain : (taken ++ [id]).IsChain fun a b => b ∈ j.targets a) :
    ∃ p ∈ j.paths, taken ++ [id] <+: p.steps := by
  have hbound : j.Bounded (j.steps.length + 1) taken := ⟨hnodup, hdeclared, by omega⟩
  obtain ⟨p, hp⟩ := List.exists_mem_of_ne_nil _ (pathsFrom_ne_nil hbound hid)
  obtain ⟨rest, hsteps, hrest, hclosing⟩ := (mem_pathsFrom_iff hbound hid).1 hp
  have hsteps' : p.steps = taken ++ [id] ++ rest := by
    rw [hsteps, List.append_assoc, List.singleton_append]
  refine ⟨p, (mem_paths_iff hj).2 ⟨?_, ?_, hclosing⟩, ⟨rest, hsteps'.symm⟩⟩
  · rw [hsteps', List.head?_append, hstarts, Option.some_or]
  · rw [hsteps]
    exact List.isChain_split.2 ⟨hchain, hrest⟩

end ApiJourney.Journey
