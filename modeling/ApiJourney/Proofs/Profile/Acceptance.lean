-- SUMMARY: Accepted profiles have distinct names, and so have the generators of each.
import ApiJourney.Profile.Basic
import ApiJourney.Proofs.Schema.Acceptance

/-!
# Accepted profiles

What is known of every profile document that was read: there is a profile, no two profiles
share a name, and no two generators of one profile do. So a profile and a generator of it
name one sequence and no other. No weight is below zero.
-/

namespace ApiJourney

namespace Profile

open Schema Verdict in
theorem nodup_generators_of_read {v : Value} {p : Profile} (h : Profile.read v = .accepted p) :
    (p.generators.map Prod.fst).Nodup := by
  simp only [Profile.read, record_eq_accepted, seq_eq_accepted, map_eq_accepted] at h
  obtain ⟨es, -, mk₅, generators, ⟨mk₄, -, ⟨mk₃, -, ⟨mk₂, -, ⟨mk₁, -,
    ⟨_, -, rfl⟩, -, rfl⟩, -, rfl⟩, -, rfl⟩, -, rfl⟩, hgenerators, rfl⟩ := h
  rcases withDefault_eq_accepted.1 hgenerators with ⟨-, doc, -, hread⟩ | ⟨-, rfl⟩
  · exact nodup_keys_of_dictionary hread
  · exact List.nodup_nil

open Schema Verdict in
theorem reaches_weight_of_read {v : Value} {p : Profile} (h : Profile.read v = .accepted p) :
    reaches false 0 p.weight = true := by
  simp only [Profile.read, record_eq_accepted, seq_eq_accepted, map_eq_accepted] at h
  obtain ⟨es, -, mk₅, generators, ⟨mk₄, _, ⟨mk₃, _, ⟨mk₂, _, ⟨mk₁, weight,
    ⟨_, -, rfl⟩, hweight, rfl⟩, -, rfl⟩, -, rfl⟩, -, rfl⟩, -, rfl⟩ := h
  obtain ⟨-, doc, -, hnumber⟩ := required_eq_accepted.1 hweight
  obtain ⟨x, -, hx⟩ := andThen_eq_accepted.1 hnumber
  split at hx
  · rename_i hreaches
    cases hx
    exact hreaches
  · exact absurd hx refuse_ne_accepted

open Schema Verdict in
theorem read_of_mem_generators {v : Value} {p : Profile} (h : Profile.read v = .accepted p)
    {e : String × Generator} (he : e ∈ p.generators) : ∃ w, Generator.read w = .accepted e.2 := by
  simp only [Profile.read, record_eq_accepted, seq_eq_accepted, map_eq_accepted] at h
  obtain ⟨es, -, mk₅, generators, ⟨mk₄, _, ⟨mk₃, _, ⟨mk₂, _, ⟨mk₁, _,
    ⟨_, -, rfl⟩, -, rfl⟩, -, rfl⟩, -, rfl⟩, -, rfl⟩, hgenerators, rfl⟩ := h
  rcases withDefault_eq_accepted.1 hgenerators with ⟨-, doc, -, hread⟩ | ⟨-, rfl⟩
  · obtain ⟨-, x, -, -, hx⟩ := exists_of_mem_dictionary hread he
    exact ⟨x.2, hx⟩
  · cases he

end Profile

namespace ProfileConfig

theorem checkNames_eq_accepted {ps found : List Profile}
    (h : checkNames ps = .accepted found) :
    found = ps ∧ (ps.map Profile.name).Nodup := by
  simp only [checkNames] at h
  split at h
  · rename_i hlength
    cases h
    exact ⟨rfl, nodup_of_length_eraseDups hlength⟩
  · exact absurd h Schema.Verdict.refuse_ne_accepted

/-- Profiles whose names are distinct, and so are the names of the generators of each. -/
structure WellFormed (c : ProfileConfig) : Prop where
  profiles_ne_nil : c.profiles ≠ []
  nodup_names : (c.profiles.map Profile.name).Nodup
  nodup_generators : ∀ p ∈ c.profiles, (p.generators.map Prod.fst).Nodup

open Schema Verdict in
theorem profiles_of_read {v : Value} {c : ProfileConfig}
    (h : ProfileConfig.read v = .accepted c) :
    (∃ doc, nonEmptyList Profile.read doc = .accepted c.profiles) ∧
      (c.profiles.map Profile.name).Nodup := by
  simp only [ProfileConfig.read, record_eq_accepted, seq_eq_accepted, map_eq_accepted] at h
  obtain ⟨es, -, mk₂, profiles, ⟨mk₁, -, ⟨_, -, rfl⟩, -, rfl⟩, hprofiles, rfl⟩ := h
  obtain ⟨-, doc, -, hprofiles⟩ := required_eq_accepted.1 hprofiles
  obtain ⟨found, hfound, hnames⟩ := andThen_eq_accepted.1 hprofiles
  obtain ⟨rfl, hnodup⟩ := checkNames_eq_accepted hnames
  exact ⟨⟨doc, hfound⟩, hnodup⟩

theorem exists_read_of_mem {v : Value} {c : ProfileConfig}
    (h : ProfileConfig.read v = .accepted c) {p : Profile} (hp : p ∈ c.profiles) :
    ∃ doc, Profile.read doc = .accepted p := by
  obtain ⟨⟨doc, hdoc⟩, -⟩ := profiles_of_read h
  exact Schema.exists_of_mem_list (Schema.nonEmptyList_accepted hdoc).1 hp

theorem wellFormed_of_read {v : Value} {c : ProfileConfig}
    (h : ProfileConfig.read v = .accepted c) : c.WellFormed := by
  obtain ⟨⟨doc, hdoc⟩, hnodup⟩ := profiles_of_read h
  refine ⟨(Schema.nonEmptyList_accepted hdoc).2, hnodup, fun p hp => ?_⟩
  obtain ⟨doc, hdoc⟩ := exists_read_of_mem h hp
  exact Profile.nodup_generators_of_read hdoc

/-- A name tells the profile. -/
theorem WellFormed.eq_of_name_eq {c : ProfileConfig} (hc : c.WellFormed) {p q : Profile}
    (hp : p ∈ c.profiles) (hq : q ∈ c.profiles) (h : p.name = q.name) : p = q :=
  List.inj_on_of_nodup_map hc.nodup_names hp hq h

end ProfileConfig

end ApiJourney
