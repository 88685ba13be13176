-- SUMMARY: What is found after an association was put over others.
import ApiJourney.Profile.Distributor
import ApiJourney.Proofs.Keys

/-!
# Assignment

Putting an association over the one of the same key changes what is found under that key and
nothing else, and it never makes a key occur twice.
-/

namespace ApiJourney.Distributor

variable [DecidableEq κ]

theorem mem_assign {key : κ} {v : α} {es : List (κ × α)} {e : κ × α}
    (he : e ∈ assign key v es) : e = (key, v) ∨ e ∈ es := by
  induction es with
  | nil => exact .inl (by simpa [assign] using he)
  | cons e' es ih =>
    obtain ⟨k', w⟩ := e'
    by_cases hkey : k' = key
    · subst hkey
      simp only [assign, if_true, List.mem_cons] at he
      exact he.imp_right (List.mem_cons_of_mem _)
    · simp only [assign, if_neg hkey, List.mem_cons] at he
      rcases he with rfl | he
      · exact .inr List.mem_cons_self
      · exact (ih he).imp_right (List.mem_cons_of_mem _)

/-- The keys stay what they were when the key is one of them. -/
theorem keys_assign_of_mem {key : κ} {es : List (κ × α)} (h : key ∈ es.map Prod.fst) (v : α) :
    (assign key v es).map Prod.fst = es.map Prod.fst := by
  induction es with
  | nil => simp at h
  | cons e es ih =>
    obtain ⟨k', w⟩ := e
    by_cases hkey : k' = key
    · simp [assign, hkey]
    · have hrest : key ∈ es.map Prod.fst := by
        simpa [Ne.symm hkey] using h
      simp [assign, hkey, ih hrest]

/-- An association of a new key goes behind all others. -/
theorem assign_of_not_mem {key : κ} {es : List (κ × α)} (h : key ∉ es.map Prod.fst) (v : α) :
    assign key v es = es ++ [(key, v)] := by
  induction es with
  | nil => rfl
  | cons e es ih =>
    simp only [List.map_cons, List.mem_cons, not_or] at h
    rw [assign, if_neg (Ne.symm h.1), ih h.2, List.cons_append]

theorem nodup_keys_assign (key : κ) (v : α) {es : List (κ × α)}
    (h : (es.map Prod.fst).Nodup) : ((assign key v es).map Prod.fst).Nodup := by
  by_cases hmem : key ∈ es.map Prod.fst
  · rw [keys_assign_of_mem hmem]
    exact h
  · rw [assign_of_not_mem hmem, List.map_append]
    simpa [List.nodup_append] using ⟨h, fun a b hab ha => hmem (by simpa using ⟨b, ha ▸ hab⟩)⟩

/-- Associations that are left out by their keys may be left out before. -/
theorem filter_assign {p : κ → Bool} {key : κ} (h : p key = true) (v : α) (es : List (κ × α)) :
    (assign key v es).filter (fun e => p e.1) = assign key v (es.filter fun e => p e.1) := by
  induction es with
  | nil => simp [assign, h]
  | cons e es ih =>
    obtain ⟨k, w⟩ := e
    by_cases hkey : k = key
    · subst hkey
      simp [assign, h]
    · rw [assign, if_neg hkey]
      cases hp : p k <;> simp [hp, assign, hkey, ih]

variable [BEq κ] [LawfulBEq κ]

theorem lookup_assign (key k : κ) (v : α) (es : List (κ × α)) :
    (assign key v es).lookup k = if k = key then some v else es.lookup k := by
  induction es with
  | nil => rw [assign, lookup_cons_ite]
  | cons e es ih =>
    obtain ⟨k', w⟩ := e
    by_cases hkey : k' = key
    · subst hkey
      by_cases h : k = k' <;> simp [assign, lookup_cons_ite, h]
    · rw [assign, if_neg hkey, lookup_cons_ite, lookup_cons_ite, ih]
      by_cases h : k = k'
      · subst h
        simp [hkey]
      · simp [h]

@[simp] theorem lookup_assign_self (key : κ) (v : α) (es : List (κ × α)) :
    (assign key v es).lookup key = some v := by
  simp [lookup_assign]

theorem lookup_assign_ne {key k : κ} (h : k ≠ key) (v : α) (es : List (κ × α)) :
    (assign key v es).lookup k = es.lookup k := by
  simp [lookup_assign, h]

/-- What is there already is put over itself. -/
theorem assign_of_lookup {key : κ} {v : α} {es : List (κ × α)} (h : es.lookup key = some v) :
    assign key v es = es := by
  induction es with
  | nil => simp at h
  | cons e es ih =>
    obtain ⟨k, w⟩ := e
    rw [lookup_cons_ite] at h
    by_cases hkey : k = key
    · subst hkey
      simp only [if_true, Option.some.injEq] at h
      rw [assign, if_pos rfl, h]
    · rw [if_neg (Ne.symm hkey)] at h
      rw [assign, if_neg hkey, ih h]

/-- Associations put over others one after the other: what the new ones hold counts first. -/
theorem lookup_foldl_assign {new : List (κ × α)} (h : (new.map Prod.fst).Nodup)
    (es : List (κ × α)) (k : κ) :
    (new.foldl (fun acc (key, v) => assign key v acc) es).lookup k
      = (new.lookup k).or (es.lookup k) := by
  induction new generalizing es with
  | nil => rfl
  | cons e new ih =>
    obtain ⟨key, v⟩ := e
    rw [List.map_cons, List.nodup_cons] at h
    rw [List.foldl_cons, ih h.2, lookup_assign, lookup_cons_ite]
    by_cases hk : k = key
    · subst hk
      have hnone : new.lookup k = none := by
        rw [List.lookup_eq_none_iff]
        intro p hp
        simpa using fun hkp => h.1 (List.mem_map.2 ⟨p, hp, hkp.symm⟩)
      simp [hnone]
    · simp [hk]

/-- A sum over all associations after one of them was put over another. -/
theorem sum_assign (f : α → Nat) {key : κ} {old : α} {es : List (κ × α)}
    (h : es.lookup key = some old) (v : α) :
    ((assign key v es).map fun e => f e.2).sum + f old = (es.map fun e => f e.2).sum + f v := by
  induction es with
  | nil => simp at h
  | cons e es ih =>
    obtain ⟨k', w⟩ := e
    rw [lookup_cons_ite] at h
    by_cases hkey : k' = key
    · subst hkey
      simp only [if_true, Option.some.injEq] at h
      subst h
      simp only [assign, if_true, List.map_cons, List.sum_cons]
      omega
    · have hrest : es.lookup key = some old := by
        simpa [Ne.symm hkey] using h
      have hsum := ih hrest
      simp only [assign, if_neg hkey, List.map_cons, List.sum_cons]
      omega

end ApiJourney.Distributor
