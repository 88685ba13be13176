-- SUMMARY: Which entries are left when later ones take the place of earlier ones.
import ApiJourney.Proofs.Value.Keys

/-!
# Latest entries

Of several entries with one key the last one counts. Where all keys are texts, what is gathered
from a list of entries are just those that have no later one with the same key.
-/

namespace ApiJourney

/-! ## Latest items -/

/-- An item of a list such that no later item has its name. -/
inductive Latest (name : α → β) (x : α) : List α → Prop where
  | here {rest : List α} : (∀ y ∈ rest, name y ≠ name x) → Latest name x (x :: rest)
  | later {y : α} {rest : List α} : Latest name x rest → Latest name x (y :: rest)

namespace Latest

variable {name : α → β} {x y : α} {xs rest : List α}

theorem mem (h : Latest name x xs) : x ∈ xs := by
  induction h with
  | here => exact List.mem_cons_self
  | later _ ih => exact List.mem_cons_of_mem _ ih

theorem not_nil : ¬ Latest name x [] := nofun

theorem cons_iff :
    Latest name x (y :: rest) ↔ (x = y ∧ ∀ z ∈ rest, name z ≠ name y) ∨ Latest name x rest := by
  constructor
  · intro h
    cases h with
    | here h => exact .inl ⟨rfl, h⟩
    | later h => exact .inr h
  · rintro (⟨rfl, h⟩ | h)
    · exact .here h
    · exact .later h

theorem forall_cons {P : α → Prop} :
    (∀ x, Latest name x (y :: rest) → P x) ↔
      ((∀ z ∈ rest, name z ≠ name y) → P y) ∧ ∀ x, Latest name x rest → P x := by
  simp only [cons_iff]
  constructor
  · exact fun h => ⟨fun hy => h y (.inl ⟨rfl, hy⟩), fun x hx => h x (.inr hx)⟩
  · rintro ⟨hy, hrest⟩ x (⟨rfl, hx⟩ | hx)
    · exact hy hx
    · exact hrest x hx

/-- Of two lists that go together item by item, the latest items go together. -/
theorem forall_congr {f : γ → β} (hf : Function.Injective f) {name' : δ → γ} {P : α → Prop}
    {Q : δ → Prop} {ys : List δ}
    (h : List.Forall₂ (fun x y => name x = f (name' y) ∧ (P x ↔ Q y)) xs ys) :
    (∀ x, Latest name x xs → P x) ↔ ∀ y, Latest name' y ys → Q y := by
  induction h with
  | nil => exact iff_of_true (fun _ h => absurd h not_nil) fun _ h => absurd h not_nil
  | @cons x y xs ys hxy hrest ih =>
    have hnames : (∀ z ∈ xs, name z ≠ name x) ↔ ∀ z ∈ ys, name' z ≠ name' y := by
      rw [hxy.1]
      clear hxy ih
      induction hrest with
      | nil => exact iff_of_true (List.forall_mem_nil _) (List.forall_mem_nil _)
      | cons hz _ ih => rw [List.forall_mem_cons, List.forall_mem_cons, ih, hz.1, ne_eq, hf.eq_iff]
    rw [forall_cons, forall_cons, ih, hnames, hxy.2]

end Latest

/-! ## Gathered entries -/

def Value.IsText (v : Value) : Prop :=
  ∃ s, v = .text s

theorem Value.eq_of_sameKey_text {k : Value} {s : String} (h : k.sameKey (.text s) = true) :
    k = .text s := by
  cases k with
  | text t => rw [sameKey_text, beq_iff_eq] at h; rw [h]
  | _ => simp [sameKey, sameAtom, parts?, reading?] at h

namespace Entries

variable {es acc : Entries} {e : Value × Value}

/-- A key keeps its spelling, so that one that is no text does not become one. -/
theorem isText_insert {k v : Value} :
    (∀ e ∈ acc.insert k v, e.1.IsText) ↔ (∀ e ∈ acc, e.1.IsText) ∧ k.IsText := by
  induction acc with
  | nil => simp [insert]
  | cons e acc ih =>
    obtain ⟨key, w⟩ := e
    rw [insert]
    split
    · next hsame =>
      have hkey : key.IsText → k.IsText := by
        rintro ⟨s, rfl⟩
        rw [Value.sameKey_comm] at hsame
        exact ⟨s, Value.eq_of_sameKey_text hsame⟩
      simp only [List.forall_mem_cons]
      exact ⟨fun h => ⟨h, hkey h.1⟩, fun h => h.1⟩
    · rw [List.forall_mem_cons, List.forall_mem_cons, ih, and_assoc]

theorem isText_update :
    (∀ e ∈ acc.update es, e.1.IsText) ↔ (∀ e ∈ acc, e.1.IsText) ∧ ∀ e ∈ es, e.1.IsText := by
  induction es generalizing acc with
  | nil => simp [update]
  | cons e es ih =>
    have hstep : acc.update (e :: es) = (acc.insert e.1 e.2).update es := rfl
    rw [hstep, ih, isText_insert, List.forall_mem_cons, and_assoc]

theorem key_insert {P : Value → Prop} (hacc : ∀ e ∈ acc, P e.1) {k v : Value} (hk : P k) :
    ∀ e ∈ acc.insert k v, P e.1 := by
  induction acc with
  | nil => exact List.forall_mem_singleton.2 hk
  | cons f acc ih =>
    obtain ⟨key, w⟩ := f
    rw [List.forall_mem_cons] at hacc
    rw [insert]
    split
    · exact List.forall_mem_cons.2 hacc
    · exact List.forall_mem_cons.2 ⟨hacc.1, ih hacc.2⟩

/-- All keys of gathered entries are keys of entries that were gathered. -/
theorem key_update {P : Value → Prop} (hacc : ∀ e ∈ acc, P e.1) (hes : ∀ e ∈ es, P e.1) :
    ∀ e ∈ acc.update es, P e.1 := by
  induction es generalizing acc with
  | nil => exact hacc
  | cons e es ih =>
    rw [List.forall_mem_cons] at hes
    exact ih (key_insert hacc hes.1) hes.2

theorem value_insert {P : Value → Prop} (hacc : ∀ e ∈ acc, P e.2) (k : Value) {v : Value}
    (hv : P v) : ∀ e ∈ acc.insert k v, P e.2 := by
  induction acc with
  | nil => exact List.forall_mem_singleton.2 hv
  | cons f acc ih =>
    obtain ⟨key, w⟩ := f
    rw [List.forall_mem_cons] at hacc
    rw [insert]
    split
    · exact List.forall_mem_cons.2 ⟨hv, hacc.2⟩
    · exact List.forall_mem_cons.2 ⟨hacc.1, ih hacc.2⟩

/-- All values of gathered entries are values of entries that were gathered. -/
theorem value_update {P : Value → Prop} (hacc : ∀ e ∈ acc, P e.2) (hes : ∀ e ∈ es, P e.2) :
    ∀ e ∈ acc.update es, P e.2 := by
  induction es generalizing acc with
  | nil => exact hacc
  | cons e es ih =>
    rw [List.forall_mem_cons] at hes
    exact ih (value_insert hacc e.1 hes.1) hes.2

theorem mem_insert_text (hacc : acc.Distinct) {s : String} {v : Value} :
    e ∈ acc.insert (.text s) v ↔ e = (.text s, v) ∨ e ∈ acc ∧ e.1 ≠ .text s := by
  induction acc with
  | nil => simp [insert]
  | cons e' acc ih =>
    obtain ⟨key, w⟩ := e'
    rw [insert]
    split
    · next hsame =>
      obtain rfl := Value.eq_of_sameKey_text hsame
      -- The keys of `acc` are distinct, so an entry behind the replaced one has another key.
      have hfresh : ∀ e ∈ acc, e.1 ≠ .text s := by
        rintro e he heq
        exact find?_eq_none.1 hacc.1 e he (by rw [heq, Value.sameKey_text, beq_self_eq_true])
      simp only [List.mem_cons]
      constructor
      · rintro (rfl | he)
        · exact .inl rfl
        · exact .inr ⟨.inr he, hfresh e he⟩
      · rintro (rfl | ⟨rfl | he, hne⟩)
        · exact .inl rfl
        · exact absurd rfl hne
        · exact .inr he
    · next hother =>
      have hne : key ≠ .text s := by
        rintro rfl
        exact hother (by rw [Value.sameKey_text, beq_self_eq_true])
      rw [List.mem_cons, ih hacc.2, List.mem_cons]
      constructor
      · rintro (rfl | rfl | ⟨he, hs⟩)
        · exact .inr ⟨.inl rfl, hne⟩
        · exact .inl rfl
        · exact .inr ⟨.inr he, hs⟩
      · rintro (rfl | ⟨rfl | he, hs⟩)
        · exact .inr (.inl rfl)
        · exact .inl rfl
        · exact .inr (.inr ⟨he, hs⟩)

theorem Distinct.get?_eq_some (h : es.Distinct) {n : String} {v : Value} :
    es.get? n = some v ↔ (.text n, v) ∈ es := by
  induction es with
  | nil => simp [get?, find?]
  | cons e es ih =>
    obtain ⟨key, w⟩ := e
    rw [get?, find?_cons]
    split
    · next hsame =>
      obtain rfl := Value.eq_of_sameKey_text hsame
      have hfresh : (.text n, v) ∉ es := fun hmem =>
        find?_eq_none.1 h.1 _ hmem (by rw [Value.sameKey_text, beq_self_eq_true])
      simp [hfresh, eq_comm]
    · next hother =>
      have hne : key ≠ .text n := by
        rintro rfl
        exact hother (by rw [Value.sameKey_text, beq_self_eq_true])
      simpa [hne.symm, get?] using ih h.2

/-- The order of entries does not tell in what is found under names. -/
theorem Distinct.get?_perm {fs : Entries} (hes : es.Distinct) (hfs : fs.Distinct) (h : es.Perm fs)
    (n : String) : es.get? n = fs.get? n := by
  apply Option.ext
  intro v
  rw [hes.get?_eq_some, hfs.get?_eq_some, h.mem_iff]

theorem mem_update_text (hacc : acc.Distinct) (hes : ∀ e ∈ es, e.1.IsText) :
    e ∈ acc.update es ↔ (e ∈ acc ∧ ∀ f ∈ es, f.1 ≠ e.1) ∨ Latest Prod.fst e es := by
  induction es generalizing acc with
  | nil => simp [update, Latest.not_nil]
  | cons f es ih =>
    obtain ⟨⟨s, hs⟩, hrest⟩ := List.forall_mem_cons.1 hes
    obtain ⟨key, v⟩ := f
    obtain rfl : key = .text s := hs
    have hstep : acc.update ((.text s, v) :: es) = (acc.insert (.text s) v).update es := rfl
    rw [hstep, ih (distinct_insert hacc _ _) hrest, mem_insert_text hacc, Latest.cons_iff,
      List.forall_mem_cons]
    constructor
    · rintro (⟨rfl | ⟨he, hne⟩, hlater⟩ | hlatest)
      · exact .inr (.inl ⟨rfl, hlater⟩)
      · exact .inl ⟨he, hne.symm, hlater⟩
      · exact .inr (.inr hlatest)
    · rintro (⟨he, hne, hlater⟩ | ⟨rfl, hlater⟩ | hlatest)
      · exact .inl ⟨.inr ⟨he, hne.symm⟩, hlater⟩
      · exact .inl ⟨.inl rfl, hlater⟩
      · exact .inr hlatest

/-- From entries with texts for keys just the latest of each key are gathered. -/
theorem mem_ofList_text (hes : ∀ e ∈ es, e.1.IsText) :
    e ∈ ofList es ↔ Latest Prod.fst e es := by
  have hdistinct : Distinct [] := trivial
  rw [ofList, mem_update_text hdistinct hes]
  simp

end Entries

end ApiJourney
