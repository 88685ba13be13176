-- SUMMARY: Requests whose templates use no built-in variable do not depend on the moment.
import ApiJourney.Proofs.Request.Rendering
import ApiJourney.Proofs.Template.Paths
import ApiJourney.Proofs.User.Rounds

/-!
# Built-in variables in requests

The contexts of two moments differ in the built-in variables alone. A path that leads neither to
one of these nor to all variables at once leads to the same at any moment, and so a user's request
is the same at any moment if its templates hold no other paths.
-/

namespace ApiJourney

/-! ## Requests -/

namespace RenderedRequest

open Template

variable {j : Journey} {s : Step} {context context' : Value} {base : Option Value}

/-- The paths in named texts, those of the names too. -/
def namedPaths (texts : List (String × String)) : List (List Char) :=
  entryPaths (entriesOf texts)

/-- The paths in all templates from which the request of a step is made. -/
def requestPaths (j : Journey) (s : Step) (base : Option Value) : List (List Char) :=
  (base.map templatePaths).getD [] ++ templatePaths (.ofOption .text s.request.body) ++
    textPaths s.request.url ++ namedPaths (mergeHeaders j.defaults.headers s.request.headers) ++
    valuePaths s.request.json ++ namedPaths s.request.queryParams

theorem fillTexts_congr {texts : List (String × String)}
    (h : AgreeOn (namedPaths texts) context context') :
    fillTexts context texts = fillTexts context' texts := by
  have hentries : fillEntries context [] (entriesOf texts) =
      fillEntries context' [] (entriesOf texts) := fillEntries_congr h
  unfold entriesOf at hentries
  rw [fillTexts, fillTexts, hentries]

theorem fillRoot_congr (h : AgreeOn ((base.map templatePaths).getD []) context context') :
    fillRoot context base = fillRoot context' base := by
  cases base with
  | none => rfl
  | some v => exact congrArg (Except.map some) (fill_congr h)

/-- Contexts that agree on the paths in the templates of a step make the same request. -/
theorem draft_congr_context (h : AgreeOn (requestPaths j s base) context context') :
    draft j s context base = draft j s context' base := by
  simp only [requestPaths, agreeOn_append] at h
  obtain ⟨⟨⟨⟨⟨hbase, hbody⟩, hurl⟩, hheaders⟩, hjson⟩, hqueryParams⟩ := h
  rw [draft_eq, draft_eq, fillRoot_congr hbase, fill_congr hbody, fillText_congr hurl,
    fillTexts_congr hheaders, fillAll_congr hjson, fillTexts_congr hqueryParams]

end RenderedRequest

/-! ## Contexts -/

namespace Variables

open Template

/-- The names of the variables that are made afresh for each request. -/
def builtIns : List String :=
  ["$uuid", "$timestamp", "$isoTimestamp"]

/-- A path that leads to or through a built-in variable, or a path without parts, which leads to
    all variables at once. -/
def ReachesBuiltIn (path : List Char) : Prop :=
  path ≠ [] ∧ ∀ part ∈ (PathPart.ofPath path).head?, ∃ n ∈ builtIns, part = .key n.toList

instance (path : List Char) : Decidable (ReachesBuiltIn path) :=
  inferInstanceAs (Decidable (_ ∧ _))

theorem get?_context_fresh {n : String} (hn : n ∉ builtIns) (fresh fresh' : Fresh)
    (sources : List Entries) :
    Entries.get? (context fresh sources) n = Entries.get? (context fresh' sources) n := by
  simp only [builtIns, List.mem_cons, List.not_mem_nil, or_false, not_or] at hn
  obtain ⟨huuid, htimestamp, hiso⟩ := hn
  simp only [context, Entries.get?_put, Ne.symm huuid, Ne.symm htimestamp, Ne.symm hiso, if_false]

/-- A part that is no built-in name leads from a context to the same at any moment. -/
theorem follow_context_fresh {part : PathPart} (h : ∀ n ∈ builtIns, part ≠ .key n.toList)
    (fresh fresh' : Fresh) (sources : List Entries) :
    PathPart.follow (.dict (context fresh sources)) part =
      PathPart.follow (.dict (context fresh' sources)) part := by
  cases part with
  | index digits => rfl
  | key name =>
    have hname : String.ofList name ∉ builtIns := fun hmem =>
      h _ hmem (by rw [String.toList_ofList])
    exact congrArg Except.ok (get?_context_fresh hname fresh fresh' sources)

theorem lookup?_dict {es : Entries} {path : List Char} (h : path ≠ []) :
    lookup? (.dict es) path = PathPart.followAll (.dict es) (PathPart.ofPath path) := by
  rw [lookup?, if_neg]
  simp [h, hasParts]

/-- A path that reaches no built-in variable leads to the same at any moment. -/
theorem lookup?_context_fresh {path : List Char} (h : ¬ ReachesBuiltIn path) (fresh fresh' : Fresh)
    (sources : List Entries) :
    lookup? (.dict (context fresh sources)) path =
      lookup? (.dict (context fresh' sources)) path := by
  by_cases hempty : path = []
  · subst hempty
    rfl
  · have hfirst : ∃ part ∈ (PathPart.ofPath path).head?, ∀ n ∈ builtIns, part ≠ .key n.toList := by
      by_contra hnone
      push Not at hnone
      exact h ⟨hempty, hnone⟩
    obtain ⟨part, hpart, hother⟩ := hfirst
    obtain ⟨rest, hparts⟩ := List.head?_eq_some_iff.1 hpart
    rw [lookup?_dict hempty, lookup?_dict hempty, hparts, PathPart.followAll, PathPart.followAll,
      follow_context_fresh hother fresh fresh']

end Variables

/-! ## Users -/

/-- No template of a course uses a built-in variable. -/
def Course.WithoutBuiltIns (c : Course) : Prop :=
  ∀ s ∈ c.journey.steps,
    ∀ path ∈ RenderedRequest.requestPaths c.journey s (RenderedRequest.baseOf c.loaded.base c.base),
      ¬ Variables.ReachesBuiltIn path

instance (c : Course) : Decidable c.WithoutBuiltIns :=
  inferInstanceAs (Decidable (∀ s ∈ c.journey.steps, _))

namespace VirtualUser

/-- Without built-in variables the request of a step is the same at any moment. -/
theorem prepare_fresh {c : Course} (hc : c.WithoutBuiltIns) (u : VirtualUser) (fresh fresh' : Fresh)
    (id : String) : u.prepare c fresh id = u.prepare c fresh' id := by
  cases hs : c.step id with
  | error f => simp only [prepare, hs, bind, Except.bind]
  | ok s =>
    have hagree : Template.AgreeOn (RenderedRequest.requestPaths c.journey s
        (RenderedRequest.baseOf c.loaded.base c.base))
        (.dict (Variables.context fresh [u.state.bindings]))
        (.dict (Variables.context fresh' [u.state.bindings])) := fun path hpath =>
      Variables.lookup?_context_fresh (hc s (Simulation.step_found hs).1 path hpath) fresh fresh' _
    rw [Simulation.prepare_eq hs, Simulation.prepare_eq hs, RenderedRequest.render,
      RenderedRequest.render, RenderedRequest.draft_congr_context hagree]

end VirtualUser

end ApiJourney
