-- SUMMARY: Accepted journeys have steps that share no id, and defaults that are accepted again.
import ApiJourney.Flow.Structure
import ApiJourney.Proofs.Schema.Acceptance

/-!
# Accepted journeys

What is known of every journey that was read from a document: it has a first step, and its
ids tell its steps apart, so that looking up the id of a step finds that step. The times among
its defaults are accepted again as they are.
-/

namespace ApiJourney.Journey

/-! ## Repeated ids -/

theorem repeatedFrom_eq_nil {seen ids : List String} :
    repeatedFrom seen ids = [] ↔ ids.Nodup ∧ ∀ id ∈ ids, id ∉ seen := by
  induction ids generalizing seen with
  | nil => simp [repeatedFrom]
  | cons id rest ih =>
    rw [repeatedFrom, List.append_eq_nil_iff, ih, List.nodup_cons]
    by_cases h : id ∈ seen
    · simp [h]
    · simp only [List.contains_iff_mem, h, if_false, List.mem_cons, not_or, true_and,
        forall_eq_or_imp, not_false_eq_true]
      constructor
      · rintro ⟨hrest, hseen⟩
        exact ⟨⟨fun hid => (hseen id hid).1 rfl, hrest⟩, fun x hx => (hseen x hx).2⟩
      · rintro ⟨⟨hid, hrest⟩, hseen⟩
        exact ⟨hrest, fun x hx => ⟨fun heq => hid (heq ▸ hx), hseen x hx⟩⟩

theorem repeated_eq_nil {ids : List String} : repeated ids = [] ↔ ids.Nodup := by
  have hempty : ∀ xs : List String, xs.eraseDups = [] ↔ xs = [] := by
    intro xs
    cases xs with
    | nil => simp
    | cons x rest => simp [List.eraseDups_cons]
  have hsorted : repeated ids = [] ↔ (repeatedFrom [] ids).eraseDups = [] := by
    rw [repeated, ← List.length_eq_zero_iff, List.length_mergeSort, List.length_eq_zero_iff]
  rw [hsorted, hempty, repeatedFrom_eq_nil]
  simp

theorem checkIds_eq_accepted {steps found : List Step}
    (h : checkIds steps = .accepted found) :
    found = steps ∧ (steps.map Step.id).Nodup := by
  unfold checkIds at h
  split at h
  · rename_i hids
    cases h
    exact ⟨rfl, repeated_eq_nil.1 hids⟩
  · exact absurd h Schema.Verdict.refuse_ne_accepted

/-! ## Well-formed journeys -/

/-- A journey that has steps whose ids are distinct. -/
structure WellFormed (j : Journey) : Prop where
  steps_ne_nil : j.steps ≠ []
  nodup_stepIds : j.stepIds.Nodup

open Schema Verdict in
theorem wellFormed_of_read {v : Value} {j : Journey} (h : Journey.read v = .accepted j) :
    j.WellFormed := by
  simp only [Journey.read, record_eq_accepted, seq_eq_accepted, map_eq_accepted] at h
  obtain ⟨es, -, mk₇, steps, ⟨mk₆, -, ⟨mk₅, -, ⟨mk₄, -, ⟨mk₃, -, ⟨mk₂, -, ⟨mk₁, -,
    ⟨_, -, rfl⟩, -, rfl⟩, -, rfl⟩, -, rfl⟩, -, rfl⟩, -, rfl⟩, -, rfl⟩, hsteps, rfl⟩ := h
  obtain ⟨-, doc, -, hsteps⟩ := required_eq_accepted.1 hsteps
  obtain ⟨found, hfound, hids⟩ := andThen_eq_accepted.1 hsteps
  obtain ⟨rfl, hnodup⟩ := checkIds_eq_accepted hids
  exact ⟨(nonEmptyList_accepted hfound).2, hnodup⟩

namespace WellFormed

variable {j : Journey}

theorem stepIds_ne_nil (hj : j.WellFormed) : j.stepIds ≠ [] := by
  simpa [stepIds] using hj.steps_ne_nil

theorem head?_stepIds (hj : j.WellFormed) : j.stepIds.head? = some j.firstId := by
  cases h : j.stepIds with
  | nil => exact absurd h hj.stepIds_ne_nil
  | cons id rest => simp [firstId, h]

theorem declares_firstId (hj : j.WellFormed) : j.declares j.firstId = true := by
  rw [declares, List.contains_iff_mem]
  exact List.mem_of_head? hj.head?_stepIds

/-- The id of a step leads back to it. -/
theorem step?_id (hj : j.WellFormed) {s : Step} (hs : s ∈ j.steps) : j.step? s.id = some s := by
  have hnodup := hj.nodup_stepIds
  unfold stepIds at hnodup
  unfold step?
  generalize j.steps = steps at hs hnodup
  induction steps with
  | nil => simp at hs
  | cons s' rest ih =>
    rw [List.map_cons, List.nodup_cons] at hnodup
    rcases List.mem_cons.1 hs with rfl | hs
    · simp
    · have hne : s'.id ≠ s.id := fun heq => hnodup.1 (heq ▸ List.mem_map_of_mem hs)
      rw [List.find?_cons, beq_false_of_ne hne]
      exact ih hs hnodup.2

theorem edgesOf_id (hj : j.WellFormed) {s : Step} (hs : s ∈ j.steps) :
    j.edgesOf s.id = j.edges s := by
  rw [edgesOf, hj.step?_id hs, Option.map_some, Option.getD_some]

end WellFormed

theorem declares_iff {j : Journey} {id : String} :
    j.declares id = true ↔ ∃ s ∈ j.steps, s.id = id := by
  simp [declares, stepIds]

end ApiJourney.Journey

namespace ApiJourney

open Schema

/-! ## Defaults -/

theorem ThinkRange.read_toValue {v : Value} {r : ThinkRange} (h : ThinkRange.read v = .accepted r) :
    ThinkRange.read r.toValue = .accepted r := by
  obtain ⟨r', hr', hchecked⟩ := Verdict.andThen_eq_accepted.1 h
  unfold ThinkRange.checkBounds at hchecked
  split at hchecked
  · next hordered =>
    cases hchecked
    simp only [record_eq_accepted, Verdict.seq_eq_accepted, Verdict.map_eq_accepted] at hr'
    obtain ⟨es, -, _, max, ⟨min, hmin, rfl⟩, hmax, rfl⟩ := hr'
    obtain ⟨_, _, -, hmin⟩ := required_eq_accepted.1 hmin
    obtain ⟨_, _, -, hmax⟩ := required_eq_accepted.1 hmax
    have hlow : numberAtLeast 0 (.float min) = .accepted min := numberAtLeast_float hmin
    have hhigh : numberAtLeast 0 (.float max) = .accepted max := numberAtLeast_float hmax
    refine Verdict.andThen_eq_accepted.2 ⟨⟨min, max⟩, ?_, if_pos hordered⟩
    simp only [record_eq_accepted, Verdict.seq_eq_accepted, Verdict.map_eq_accepted]
    refine ⟨_, rfl, _, max, ⟨min, ?_, rfl⟩, ?_, rfl⟩
    · exact required_eq_accepted.2 ⟨"min", .float min, rfl, hlow⟩
    · exact required_eq_accepted.2 ⟨"max", .float max, rfl, hhigh⟩
  · exact absurd hchecked Verdict.refuse_ne_accepted

theorem ThinkTime.read_toValue {v : Value} {t : ThinkTime} (h : ThinkTime.read v = .accepted t) :
    ThinkTime.read t.toValue = .accepted t := by
  rcases either_eq_accepted.1 h with hfixed | ⟨-, hrange⟩
  · obtain ⟨x, hx, rfl⟩ := Verdict.map_eq_accepted.1 hfixed
    exact either_eq_accepted.2 (.inl (Verdict.map_eq_accepted.2 ⟨x, numberAtLeast_float hx, rfl⟩))
  · obtain ⟨r, hr, rfl⟩ := Verdict.map_eq_accepted.1 hrange
    refine either_eq_accepted.2 (.inr ⟨⟨_, rfl⟩, ?_⟩)
    exact Verdict.map_eq_accepted.2 ⟨r, ThinkRange.read_toValue hr, rfl⟩

namespace JourneyDefaults

/-- The timeout and the think time of defaults are read again as they are. -/
structure Settled (d : JourneyDefaults) : Prop where
  timeout : ∀ t ∈ d.timeout, numberAbove 0 (.float t) = .accepted t
  thinkTime : ∀ t ∈ d.thinkTime, ThinkTime.read t.toValue = .accepted t

theorem settled_of_read {v : Value} {d : JourneyDefaults}
    (h : JourneyDefaults.read v = .accepted d) : d.Settled := by
  simp only [JourneyDefaults.read, record_eq_accepted, Verdict.seq_eq_accepted,
    Verdict.map_eq_accepted] at h
  obtain ⟨es, -, _, thinkTime, ⟨_, timeout, ⟨headers, -, rfl⟩, htimeout, rfl⟩, hthinkTime,
    rfl⟩ := h
  constructor
  · rintro t rfl
    obtain ⟨w, hw⟩ := exists_of_optional htimeout
    exact numberAbove_float hw
  · rintro t rfl
    obtain ⟨w, hw⟩ := exists_of_optional hthinkTime
    exact ThinkTime.read_toValue hw

end JourneyDefaults

theorem Journey.settled_defaults {v : Value} {j : Journey} (h : Journey.read v = .accepted j) :
    j.defaults.Settled := by
  simp only [Journey.read, record_eq_accepted, Verdict.seq_eq_accepted,
    Verdict.map_eq_accepted] at h
  obtain ⟨es, -, _, _, ⟨_, _, ⟨_, defaults, ⟨_, _, ⟨_, _, ⟨_, _, ⟨_, _, ⟨_, -, rfl⟩, -, rfl⟩, -,
    rfl⟩, -, rfl⟩, -, rfl⟩, hdefaults, rfl⟩, -, rfl⟩, -, rfl⟩ := h
  rcases withDefault_eq_accepted.1 hdefaults with ⟨_, _, -, hread⟩ | ⟨-, rfl⟩
  · exact JourneyDefaults.settled_of_read hread
  · constructor
    · rintro t ⟨⟩
    · rintro t ⟨⟩

end ApiJourney
