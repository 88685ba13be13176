-- SUMMARY: Which JSON values have a text, and which values have texts for keys.
import ApiJourney.Proofs.Number.Written
import ApiJourney.Proofs.Outcome
import ApiJourney.Proofs.Value.Equality
import ApiJourney.Proofs.Value.Latest
import ApiJourney.Template.Filling

/-!
# Texts of JSON values

A JSON value has a text in a template unless it holds, at any depth, an integer with more digits
than a numeral may have. A value can be written as JSON only if its objects have texts for keys,
as those of JSON values have.
-/

namespace ApiJourney

open Numeral

/-! ## What a value holds -/

namespace Value

/-- Somewhere in a value stands an integer with more digits than a numeral may have. -/
inductive HoldsLong : Value → Prop where
  | int {n : Int} : ¬ Short n → HoldsLong (.int n)
  | item {items : List Value} {v : Value} : v ∈ items → HoldsLong v → HoldsLong (.list items)
  | entry {es : Entries} {e : Value × Value} : e ∈ es → HoldsLong e.2 → HoldsLong (.dict es)

theorem holdsLong_int {n : Int} : HoldsLong (.int n) ↔ ¬ Short n :=
  ⟨fun h => by cases h; assumption, .int⟩

theorem holdsLong_list {items : List Value} :
    HoldsLong (.list items) ↔ ∃ v ∈ items, HoldsLong v :=
  ⟨fun h => by cases h with | item hv h => exact ⟨_, hv, h⟩, fun ⟨_, hv, h⟩ => .item hv h⟩

theorem holdsLong_object {fields : List (String × Value)} :
    HoldsLong (.object fields) ↔ ∃ f ∈ fields, HoldsLong f.2 := by
  constructor
  · intro h
    cases h with
    | entry he h =>
      obtain ⟨f, hf, rfl⟩ := List.mem_map.1 he
      exact ⟨f, hf, h⟩
  · rintro ⟨f, hf, h⟩
    exact .entry (List.mem_map_of_mem hf) h

/-- A key of an object that stands somewhere in a value. -/
inductive HoldsKey (k : Value) : Value → Prop where
  | key {es : Entries} {v : Value} : (k, v) ∈ es → HoldsKey k (.dict es)
  | entry {es : Entries} {e : Value × Value} : e ∈ es → HoldsKey k e.2 → HoldsKey k (.dict es)
  | item {items : List Value} {v : Value} : v ∈ items → HoldsKey k v → HoldsKey k (.list items)
  | member {items : List Value} {v : Value} : v ∈ items → HoldsKey k v → HoldsKey k (.tuple items)

/-- All objects in a value have texts for keys. -/
def TextKeyed (v : Value) : Prop :=
  ∀ k, HoldsKey k v → k.IsText

theorem textKeyed_list {items : List Value} : TextKeyed (.list items) ↔ ∀ v ∈ items, TextKeyed v := by
  constructor
  · exact fun h v hv k hk => h k (.item hv hk)
  · intro h k hk
    cases hk with
    | item hv hk => exact h _ hv k hk

theorem textKeyed_dict {es : Entries} :
    TextKeyed (.dict es) ↔ ∀ e ∈ es, e.1.IsText ∧ TextKeyed e.2 := by
  constructor
  · exact fun h e he => ⟨h e.1 (.key he), fun k hk => h k (.entry he hk)⟩
  · intro h k hk
    cases hk with
    | key he => exact (h _ he).1
    | entry he hk => exact (h _ he).2 k hk

theorem IsJson.textKeyed {v : Value} (h : IsJson v) : TextKeyed v := by
  induction h with
  | list _ ih => exact textKeyed_list.2 ih
  | object _ _ ih =>
    refine textKeyed_dict.2 fun e he => ?_
    obtain ⟨f, hf, rfl⟩ := List.mem_map.1 he
    exact ⟨⟨f.1, rfl⟩, ih f hf⟩
  | _ => exact fun k hk => by cases hk

end Value

/-! ## Texts -/

open Value

theorem intText?_eq_some {n : Int} : (∃ t, intText? n = some t) ↔ Short n := by
  refine ⟨fun ⟨t, ht⟩ => ?_, fun h => ⟨_, intText?_of_short h⟩⟩
  by_contra hlong
  unfold Short at hlong
  -- The bound is a name here, so that its power is not evaluated.
  generalize hbound : maxDigits = bound at hlong
  rw [intText?, hbound, Nat.pow_eq, if_pos (Nat.not_lt.1 hlong)] at ht
  cases ht

namespace Json

variable {style : Style}

theorem writeInt_eq_ok {n : Int} : (∃ t, writeInt n = .ok t) ↔ Short n := by
  rw [← intText?_eq_some]
  -- `delta`, since the equation of the definition would evaluate the bound on its digits.
  delta writeInt
  cases intText? n <;> simp

theorem writeItems_eq_ok {xs : List Value} :
    (∃ ts, writeItems style xs = .ok ts) ↔ ∀ x ∈ xs, ∃ t, write style x = .ok t := by
  induction xs with
  | nil => exact iff_of_true ⟨_, by rw [writeItems]⟩ (List.forall_mem_nil _)
  | cons x xs ih =>
    rw [List.forall_mem_cons, ← ih, writeItems]
    simp only [bind_eq_ok]
    constructor
    · rintro ⟨_, t, ht, ts, hts, -⟩
      exact ⟨⟨t, ht⟩, ts, hts⟩
    · rintro ⟨⟨t, ht⟩, ts, hts⟩
      exact ⟨_, t, ht, ts, hts, rfl⟩

theorem writeEntries_eq_ok {fields : List (String × Value)} :
    (∃ ts, writeEntries style (fields.map fun (k, v) => (.text k, v)) = .ok ts) ↔
      ∀ f ∈ fields, ∃ t, write style f.2 = .ok t := by
  induction fields with
  | nil => exact iff_of_true ⟨_, by rw [List.map_nil, writeEntries]⟩ (List.forall_mem_nil _)
  | cons f fields ih =>
    rw [List.forall_mem_cons, ← ih, List.map_cons, writeEntries]
    simp only [keyText, bind_eq_ok]
    constructor
    · rintro ⟨_, _, -, t, ht, ts, hts, -⟩
      exact ⟨⟨t, ht⟩, ts, hts⟩
    · rintro ⟨⟨t, ht⟩, ts, hts⟩
      exact ⟨_, _, rfl, t, ht, ts, hts, rfl⟩

/-- A JSON value is written unless it holds an integer of too many digits. -/
theorem write_eq_ok (style : Style) {v : Value} (h : IsJson v) :
    (∃ t, write style v = .ok t) ↔ ¬ HoldsLong v := by
  induction h with
  | int n => rw [write, writeInt_eq_ok, holdsLong_int, not_not]
  | @list xs _ ih =>
    have hwrite : (∃ t, write style (.list xs) = .ok t) ↔ ∃ ts, writeItems style xs = .ok ts := by
      rw [write]
      simp [bind_eq_ok]
    rw [hwrite, writeItems_eq_ok, holdsLong_list]
    push Not
    exact forall₂_congr ih
  | @object fields _ _ ih =>
    have hwrite : (∃ t, write style (.object fields) = .ok t) ↔
        ∃ ts, writeEntries style (fields.map fun (k, v) => (.text k, v)) = .ok ts := by
      rw [object, write]
      simp [bind_eq_ok]
    rw [hwrite, writeEntries_eq_ok, holdsLong_object]
    push Not
    exact forall₂_congr ih
  | _ => exact iff_of_true ⟨_, by rw [write]⟩ fun hlong => by cases hlong

end Json

namespace Template

/-- A JSON value has a text unless it holds an integer of too many digits. -/
theorem textOf_eq_ok {v : Value} (h : IsJson v) : (∃ t, textOf v = .ok t) ↔ ¬ HoldsLong v := by
  have htext : ∀ {v}, IsJson v → ((∃ t, Json.text v = .ok t) ↔ ¬ HoldsLong v) := by
    intro v h
    rw [← Json.write_eq_ok Json.compact h, Json.text]
    simp [map_eq_ok]
  cases h with
  | int n =>
    rw [holdsLong_int, not_not, ← intText?_eq_some]
    have hshown : shown? (.int n) = intText? n := by simp [shown?, written?]
    simp only [textOf, hshown]
    cases intText? n <;> simp
  | list h => exact htext (.list h)
  | object hkeys h => exact htext (.object hkeys h)
  | _ => exact iff_of_true ⟨_, rfl⟩ fun hlong => by cases hlong

end Template

end ApiJourney
