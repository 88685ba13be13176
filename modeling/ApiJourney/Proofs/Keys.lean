-- SUMMARY: Lists without repetitions, and entries looked up by key.
import ApiJourney.Schema.Record
import Mathlib

/-!
# Keys

Removing repetitions leaves a list without any, and a dictionary that was read holds no key
twice. Among entries with distinct keys every one is found under its key.
-/

namespace ApiJourney

/-! ## Repetitions -/

theorem nodup_eraseDups [BEq α] [LawfulBEq α] (xs : List α) : xs.eraseDups.Nodup := by
  -- Each round filters the rest, so the induction is on the length.
  induction hn : xs.length using Nat.strongRecOn generalizing xs with
  | _ n ih =>
    cases xs with
    | nil => exact List.nodup_nil
    | cons x rest =>
      rw [List.eraseDups_cons, List.nodup_cons]
      have hlength : (rest.filter fun b => !b == x).length < n := by
        rw [← hn, List.length_cons]
        exact Nat.lt_succ_of_le (List.length_filter_le _ _)
      refine ⟨?_, ih _ hlength _ rfl⟩
      simp [List.mem_eraseDups]

/-- A list without repetitions is as long as it is without them. -/
theorem nodup_of_length_eraseDups {α : Type} [BEq α] [LawfulBEq α] {xs : List α}
    (h : xs.eraseDups.length = xs.length) : xs.Nodup := by
  have hsubset : xs.eraseDups ⊆ xs := fun x hx => List.mem_eraseDups.1 hx
  have hsubperm := List.subperm_of_subset (nodup_eraseDups xs) hsubset
  have hperm := hsubperm.perm_of_length_le (Nat.le_of_eq h.symm)
  exact hperm.nodup_iff.1 (nodup_eraseDups xs)

theorem eraseDups_of_nodup [BEq α] [LawfulBEq α] {xs : List α} (h : xs.Nodup) :
    xs.eraseDups = xs := by
  induction xs with
  | nil => rfl
  | cons x xs ih =>
    obtain ⟨hx, hxs⟩ := List.nodup_cons.1 h
    have hkept : (xs.filter fun y => !y == x) = xs := by
      refine List.filter_eq_self.2 fun y hy => ?_
      have hne : y ≠ x := fun heq => hx (heq ▸ hy)
      rw [beq_false_of_ne hne, Bool.not_false]
    rw [List.eraseDups_cons, hkept, ih hxs]

/-- Of two lists with related items each item of the first one has its relative. -/
theorem exists_of_mem_left {R : α → β → Prop} {xs : List α} {ys : List β}
    (h : List.Forall₂ R xs ys) {x : α} (hx : x ∈ xs) : ∃ y ∈ ys, R x y := by
  induction h with
  | nil => cases hx
  | cons hxy _ ih =>
    rcases List.mem_cons.1 hx with rfl | hx
    · exact ⟨_, List.mem_cons_self, hxy⟩
    · obtain ⟨y, hy, hxy⟩ := ih hx
      exact ⟨y, List.mem_cons_of_mem _ hy, hxy⟩

/-- A list of relatives can be made as soon as each item has one. -/
theorem exists_forall₂ {R : α → β → Prop} {xs : List α} :
    (∃ ys, List.Forall₂ R xs ys) ↔ ∀ x ∈ xs, ∃ y, R x y := by
  induction xs with
  | nil => exact iff_of_true ⟨[], .nil⟩ (List.forall_mem_nil _)
  | cons x xs ih =>
    simp only [List.forall₂_cons_left_iff, List.forall_mem_cons, ← ih]
    constructor
    · rintro ⟨_, y, ys, hy, hys, rfl⟩
      exact ⟨⟨y, hy⟩, ys, hys⟩
    · rintro ⟨⟨y, hy⟩, ys, hys⟩
      exact ⟨_, y, ys, hy, hys, rfl⟩

theorem forall_mem_congr {P : α → Prop} {Q : β → Prop} {xs : List α} {ys : List β}
    (h : List.Forall₂ (fun x y => P x ↔ Q y) xs ys) : (∀ x ∈ xs, P x) ↔ ∀ y ∈ ys, Q y := by
  induction h with
  | nil => exact iff_of_true (List.forall_mem_nil _) (List.forall_mem_nil _)
  | cons hxy _ ih => rw [List.forall_mem_cons, List.forall_mem_cons, hxy, ih]

namespace Schema

theorem nodup_keys_lastOfEach (es : List (String × α)) :
    ((lastOfEach es).map Prod.fst).Nodup := by
  have hkeys : ∀ keys : List String,
      ((keys.filterMap fun k => (es.reverse.lookup k).map fun a => (k, a)).map Prod.fst).Sublist
        keys := by
    intro keys
    induction keys with
    | nil => exact List.Sublist.slnil
    | cons k keys ih =>
      cases h : es.reverse.lookup k with
      | none => simpa [List.filterMap_cons, h] using ih.cons k
      | some a => simpa [List.filterMap_cons, h] using ih
  exact (nodup_eraseDups _).sublist (hkeys _)

end Schema

/-! ## Entries by key -/

variable [BEq κ] [LawfulBEq κ]

theorem isSome_lookup_iff {es : List (κ × α)} {key : κ} :
    (es.lookup key).isSome ↔ key ∈ es.map Prod.fst := by
  rw [List.lookup_isSome_iff, List.mem_map]
  exact exists_congr fun e => and_congr_right fun _ => by rw [beq_iff_eq, eq_comm]

theorem mem_of_lookup {es : List (κ × α)} {key : κ} {v : α} (h : es.lookup key = some v) :
    (key, v) ∈ es := by
  obtain ⟨before, behind, rfl, -⟩ := List.lookup_eq_some_iff.1 h
  exact List.mem_append_right _ List.mem_cons_self

variable [DecidableEq κ]

theorem lookup_cons_ite (key k : κ) (v : α) (es : List (κ × α)) :
    List.lookup k ((key, v) :: es) = if k = key then some v else es.lookup k := by
  rw [List.lookup_cons]
  by_cases h : k = key
  · simp [h]
  · rw [if_neg h, beq_false_of_ne h]

theorem lookup_of_mem {es : List (κ × α)} (h : (es.map Prod.fst).Nodup) {key : κ} {v : α}
    (hmem : (key, v) ∈ es) : es.lookup key = some v := by
  induction es with
  | nil => simp at hmem
  | cons e es ih =>
    obtain ⟨k, w⟩ := e
    rw [List.map_cons, List.nodup_cons] at h
    rw [lookup_cons_ite]
    rcases List.mem_cons.1 hmem with heq | hmem
    · cases heq
      simp
    · have hne : key ≠ k := fun heq => h.1 (List.mem_map.2 ⟨_, hmem, heq⟩)
      rw [if_neg hne, ih h.2 hmem]

theorem lookup_map_snd (f : α → β) (es : List (κ × α)) (key : κ) :
    (es.map fun e => (e.1, f e.2)).lookup key = (es.lookup key).map f := by
  induction es with
  | nil => rfl
  | cons e es ih =>
    obtain ⟨k, w⟩ := e
    rw [List.map_cons, lookup_cons_ite, lookup_cons_ite, ih]
    split <;> rfl

end ApiJourney
