-- SUMMARY: What an object becomes when its texts are filled.
import ApiJourney.Proofs.Outcome
import ApiJourney.Proofs.Variables.Merge
import ApiJourney.Template.Filling

/-!
# Filling objects

An object is filled entry by entry. Where its keys stay as they are, each of them leads to the
filled value.
-/

namespace ApiJourney

namespace Entries

/-- Entries with the same keys and related values are found together. -/
theorem rel_find? {R : Value → Value → Prop} {es fs : Entries}
    (h : List.Forall₂ (fun e f => f.1 = e.1 ∧ R e.2 f.2) es fs) (key : Value) :
    Option.Rel R (es.find? key) (fs.find? key) := by
  induction h with
  | nil => exact .none
  | @cons e f es fs hef _ ih =>
    obtain ⟨k, v⟩ := e
    obtain ⟨k', w⟩ := f
    obtain ⟨rfl, hvw⟩ := hef
    rw [find?_cons, find?_cons]
    split
    · exact .some hvw
    · exact ih

theorem exists_of_rel_some {R : Value → Value → Prop} {v : Value} {found : Option Value}
    (h : Option.Rel R (some v) found) : ∃ w, found = some w ∧ R v w := by
  cases h with
  | some hvw => exact ⟨_, rfl, hvw⟩

theorem eq_none_of_rel_none {R : Value → Value → Prop} {found : Option Value}
    (h : Option.Rel R none found) : found = none := by
  cases h
  rfl

theorem distinct_of_forall₂ {R : Value → Value → Prop} {es fs : Entries}
    (h : List.Forall₂ (fun e f => f.1 = e.1 ∧ R e.2 f.2) es fs) (hes : es.Distinct) :
    fs.Distinct := by
  induction h with
  | nil => trivial
  | @cons e f es fs hef hrest ih =>
    obtain ⟨hfresh, hes⟩ := hes
    refine ⟨?_, ih hes⟩
    have hrel := rel_find? hrest e.1
    rw [hfresh] at hrel
    rw [hef.1]
    exact eq_none_of_rel_none hrel

end Entries

namespace Template

variable {context : Value}

/-- An entry filled: its key and its value. -/
structure FillsTo (context : Value) (e f : Value × Value) : Prop where
  key : fill context e.1 = .ok f.1
  value : fillAll context e.2 = .ok f.2
  hashable : f.1.hashable = true

theorem fillEntries_eq_ok {acc fs : Entries} {es : List (Value × Value)} :
    fillEntries context acc es = .ok fs ↔
      ∃ gs, List.Forall₂ (FillsTo context) es gs ∧ fs = acc.update gs := by
  induction es generalizing acc with
  | nil =>
    rw [fillEntries, Except.ok.injEq]
    constructor
    · intro h
      exact ⟨[], .nil, h.symm⟩
    · rintro ⟨gs, hgs, h⟩
      cases hgs
      exact h.symm
  | cons e es ih =>
    obtain ⟨k, v⟩ := e
    rw [fillEntries, bind_eq_ok]
    constructor
    · rintro ⟨key, hkey, h⟩
      obtain ⟨value, hvalue, h⟩ := bind_eq_ok.1 h
      split at h
      · cases h
      · next hhashable =>
        obtain ⟨gs, hgs, rfl⟩ := ih.1 h
        exact ⟨(key, value) :: gs, .cons ⟨hkey, hvalue, by simpa using hhashable⟩ hgs, rfl⟩
    · rintro ⟨gs, hgs, rfl⟩
      cases hgs with
      | @cons _ g _ gs hg hgs =>
        refine ⟨g.1, hg.key, bind_eq_ok.2 ⟨g.2, hg.value, ?_⟩⟩
        rw [hg.hashable]
        exact ih.2 ⟨gs, hgs, rfl⟩

/-- An object whose keys stay as they are is filled value by value. -/
theorem forall₂_fillEntries {es fs : Entries} (hdistinct : es.Distinct)
    (hkeys : ∀ e ∈ es, fill context e.1 = .ok e.1) (h : fillEntries context [] es = .ok fs) :
    List.Forall₂ (fun e f => f.1 = e.1 ∧ fillAll context e.2 = .ok f.2) es fs := by
  obtain ⟨gs, hgs, rfl⟩ := fillEntries_eq_ok.1 h
  have hsame : List.Forall₂ (fun e g => g.1 = e.1 ∧ fillAll context e.2 = .ok g.2) es gs :=
    ((List.forall₂_and_left _ _).2 ⟨hkeys, hgs⟩).imp fun e g hg =>
      ⟨Except.ok.inj (hg.2.key.symm.trans hg.1), hg.2.value⟩
  have hgathered : Entries.update [] gs = gs := Entries.ofList_of_distinct
    (Entries.distinct_of_forall₂ (R := fun v w => fillAll context v = .ok w) hsame hdistinct)
  rwa [hgathered]

/-- On the way along a path no key is a template. -/
def KeysStay (context : Value) : Value → List Value → Prop
  | .dict es, k :: path => Entries.Distinct es ∧ (∀ e ∈ es, fill context e.1 = .ok e.1) ∧
    ∀ v, Entries.find? es k = some v → KeysStay context v path
  | _, _ => True

/-- At the end of a path along keys that stay stands what was there, filled. -/
theorem fillAll_at? {v w x : Value} {path : List Value} (hstay : KeysStay context v path)
    (hat : v.at? path = some x) (h : fillAll context v = .ok w) :
    ∃ y, fillAll context x = .ok y ∧ w.at? path = some y := by
  induction path generalizing v w with
  | nil =>
    rw [Value.at?, Option.some.injEq] at hat
    exact ⟨w, hat ▸ h, by rw [Value.at?]⟩
  | cons k path ih =>
    cases hobject : v.isObject with
    | false => cases v <;> first | cases hobject; done | simp [Value.at?] at hat
    | true =>
      obtain ⟨es, rfl⟩ := Value.isObject_iff.1 hobject
      rw [KeysStay] at hstay
      obtain ⟨hdistinct, hkeys, hstay⟩ := hstay
      rw [fillAll, bind_eq_ok] at h
      obtain ⟨fs, hfs, h⟩ := h
      cases h
      rw [Value.at?, Option.bind_eq_some_iff] at hat
      obtain ⟨v, hv, hat⟩ := hat
      -- The keys on the path stay as they are, so the filled entry is found under the same key.
      have hrel := Entries.rel_find? (R := fun v w => fillAll context v = .ok w)
        (forall₂_fillEntries hdistinct hkeys hfs) k
      rw [hv] at hrel
      obtain ⟨w, hw, hvw⟩ := Entries.exists_of_rel_some hrel
      obtain ⟨y, hy, hwy⟩ := ih (hstay v hv) hat hvw
      exact ⟨y, hy, by rw [Value.at?, hw, Option.bind_some, hwy]⟩

end Template

end ApiJourney
