-- SUMMARY: What it takes for a document to be accepted.
import ApiJourney.Failure
import ApiJourney.Proofs.Keys
import ApiJourney.Proofs.Outcome

/-!
# Acceptance

A reading is accepted when all its parts are. The equivalences here take an accepted record
apart into its accepted fields, and an accepted list into its accepted items.
-/

namespace ApiJourney.Schema

/-! ## Verdicts -/

namespace Verdict

@[simp] theorem accepted_inj {a b : α} : Verdict.accepted a = .accepted b ↔ a = b :=
  ⟨fun h => by cases h; rfl, fun h => by rw [h]⟩

@[simp] theorem refuse_ne_accepted {c : Cause} {a : α} : refuse c ≠ .accepted a := by
  intro h
  cases h

theorem map_eq_accepted {f : α → β} {v : Verdict α} {b : β} :
    f <$> v = .accepted b ↔ ∃ a, v = .accepted a ∧ f a = b := by
  cases v with
  | accepted a => simp [Functor.map, map]
  | refused is => simp [Functor.map, map]

theorem seq_eq_accepted {f : Verdict (α → β)} {v : Verdict α} {b : β} :
    f <*> v = .accepted b ↔ ∃ g a, f = .accepted g ∧ v = .accepted a ∧ g a = b := by
  cases f with
  | accepted g => cases v <;> simp [Seq.seq, apply]
  | refused is => cases v <;> simp [Seq.seq, apply]

theorem andThen_eq_accepted {v : Verdict α} {f : α → Verdict β} {b : β} :
    v.andThen f = .accepted b ↔ ∃ a, v = .accepted a ∧ f a = .accepted b := by
  cases v with
  | accepted a => simp [andThen]
  | refused is => simp [andThen]

@[simp] theorem under_eq_accepted {p : Place} {v : Verdict α} {a : α} :
    v.under p = .accepted a ↔ v = .accepted a := by
  cases v with
  | accepted a => simp [under]
  | refused is => simp [under]

/-- A list is accepted item by item. -/
theorem each_eq_accepted {read : α → Verdict β} {n : Nat} {xs : List α} {ys : List β} :
    each read n xs = .accepted ys ↔ List.Forall₂ (fun x y => read x = .accepted y) xs ys := by
  induction xs generalizing n ys with
  | nil =>
    constructor
    · intro h
      cases h
      exact .nil
    · intro h
      cases h
      rfl
  | cons x xs ih =>
    rw [each, seq_eq_accepted]
    constructor
    · rintro ⟨g, rest, hg, hrest, rfl⟩
      obtain ⟨y, hy, rfl⟩ := map_eq_accepted.1 hg
      exact .cons (under_eq_accepted.1 hy) (ih.1 hrest)
    · intro h
      cases h with
      | cons hy hrest =>
        exact ⟨_, _, map_eq_accepted.2 ⟨_, under_eq_accepted.2 hy, rfl⟩, ih.2 hrest, rfl⟩

end Verdict

/-! ## Fields -/

theorem record_eq_accepted {name : String} {v : Value} {read : Entries → Verdict α} {a : α} :
    record name v read = .accepted a ↔ ∃ es, v = .dict es ∧ read es = .accepted a := by
  cases v <;> simp [record]

theorem get?_of_lookup? {es : Entries} {names : List String} {k : String} {v : Value}
    (h : lookup? es names = some (k, v)) : es.get? k = some v := by
  induction names with
  | nil => cases h
  | cons n names ih =>
    rw [lookup?] at h
    cases hn : es.get? n with
    | none =>
      rw [hn] at h
      exact ih h
    | some w =>
      rw [hn] at h
      cases h
      exact hn

theorem required_eq_accepted {es : Entries} {names : List String} {read : Value → Verdict α}
    {a : α} :
    required es names read = .accepted a ↔
      ∃ k v, lookup? es names = some (k, v) ∧ read v = .accepted a := by
  unfold required
  cases h : lookup? es names with
  | none => simp
  | some found =>
    obtain ⟨k, v⟩ := found
    simp

/-- A field with a default holds what was read there, or the default. -/
theorem withDefault_eq_accepted {es : Entries} {names : List String} {default : α}
    {read : Value → Verdict α} {a : α} :
    withDefault es names default read = .accepted a ↔
      (∃ k v, lookup? es names = some (k, v) ∧ read v = .accepted a) ∨
        (lookup? es names = none ∧ default = a) := by
  unfold withDefault
  cases h : lookup? es names with
  | none => simp
  | some found =>
    obtain ⟨k, v⟩ := found
    simp

theorem nullable_eq_accepted {read : Value → Verdict α} {v : Value} {a : α}
    (hv : v.isNull = false) (h : read v = .accepted a) :
    nullable read v = .accepted (some a) := by
  rw [nullable, hv, h]
  rfl

theorem exists_of_optional {es : Entries} {names : List String} {read : Value → Verdict α}
    {a : α} (h : optional es names read = .accepted (some a)) : ∃ v, read v = .accepted a := by
  rcases withDefault_eq_accepted.1 h with ⟨k, v, -, hread⟩ | ⟨-, hdefault⟩
  · unfold nullable at hread
    split at hread
    · cases hread
    · obtain ⟨b, hb, hsome⟩ := Verdict.map_eq_accepted.1 hread
      cases hsome
      exact ⟨v, hb⟩
  · cases hdefault

/-- A number that passed a check is read again as itself. -/
theorem check_float {p : Float → Bool} {c : Cause} {v : Value} {x : Float}
    (h : (number v).andThen (fun x => if p x then .accepted x else .refuse c) = .accepted x) :
    (number (.float x)).andThen (fun x => if p x then .accepted x else .refuse c) =
      .accepted x := by
  obtain ⟨y, -, hy⟩ := Verdict.andThen_eq_accepted.1 h
  split at hy
  · next hpasses =>
    cases hy
    exact if_pos hpasses
  · exact absurd hy Verdict.refuse_ne_accepted

theorem numberAtLeast_float {bound : Int} {v : Value} {x : Float}
    (h : numberAtLeast bound v = .accepted x) : numberAtLeast bound (.float x) = .accepted x :=
  check_float h

theorem numberAbove_float {bound : Int} {v : Value} {x : Float}
    (h : numberAbove bound v = .accepted x) : numberAbove bound (.float x) = .accepted x :=
  check_float h

theorem either_eq_accepted {first second : String × (Value → Verdict α)} {v : Value} {a : α} :
    either first second v = .accepted a ↔ first.2 v = .accepted a ∨
      (∃ issues, first.2 v = .refused issues) ∧ second.2 v = .accepted a := by
  unfold either
  cases first.2 v with
  | accepted b => simp
  | refused issues => cases second.2 v <;> simp

/-! ## Containers -/

theorem forall₂_of_list {read : Value → Verdict α} {v : Value} {ys : List α}
    (h : list read v = .accepted ys) :
    ∃ xs : List Value, List.Forall₂ (fun x y => read x = .accepted y) xs ys := by
  unfold list at h
  split at h
  · exact ⟨_, Verdict.each_eq_accepted.1 h⟩
  · exact ⟨_, Verdict.each_eq_accepted.1 h⟩
  · exact absurd h Verdict.refuse_ne_accepted

theorem exists_of_mem_list {read : Value → Verdict α} {v : Value} {ys : List α}
    (h : list read v = .accepted ys) {y : α} (hy : y ∈ ys) : ∃ x, read x = .accepted y := by
  obtain ⟨xs, hxs⟩ := forall₂_of_list h
  clear h
  induction hxs with
  | nil => simp at hy
  | cons hx _ ih =>
    rcases List.mem_cons.1 hy with rfl | hy
    · exact ⟨_, hx⟩
    · exact ih hy

theorem nonEmptyList_accepted {read : Value → Verdict α} {v : Value} {ys : List α}
    (h : nonEmptyList read v = .accepted ys) : list read v = .accepted ys ∧ ys ≠ [] := by
  obtain ⟨xs, hxs, h⟩ := Verdict.andThen_eq_accepted.1 h
  split at h
  · exact absurd h Verdict.refuse_ne_accepted
  · rename_i hempty
    cases h
    exact ⟨hxs, by simpa using hempty⟩

theorem entries_eq_accepted {read : Value → Verdict α} {es : Entries} {ys : List (String × α)} :
    entries read es = .accepted ys ↔
      List.Forall₂ (fun e y => text e.1 = .accepted y.1 ∧ read e.2 = .accepted y.2) es ys := by
  induction es generalizing ys with
  | nil =>
    constructor
    · intro h
      cases h
      exact .nil
    · intro h
      cases h
      rfl
  | cons e es ih =>
    obtain ⟨k, v⟩ := e
    rw [entries, Verdict.seq_eq_accepted]
    simp only [Verdict.map_eq_accepted, Verdict.seq_eq_accepted, Verdict.under_eq_accepted]
    constructor
    · rintro ⟨_, rest, ⟨y, ⟨_, a, ⟨key, hkey, rfl⟩, ha, rfl⟩, rfl⟩, hrest, rfl⟩
      exact .cons ⟨hkey, ha⟩ (ih.1 hrest)
    · intro h
      cases h with
      | cons hy hrest =>
        exact ⟨_, _, ⟨_, ⟨_, _, ⟨_, hy.1, rfl⟩, hy.2, rfl⟩, rfl⟩, ih.2 hrest, rfl⟩

theorem lastOfEach_of_nodup {es : List (String × α)} (h : (es.map Prod.fst).Nodup) :
    lastOfEach es = es := by
  have hkeys : (es.map Prod.fst).eraseDups = es.map Prod.fst := eraseDups_of_nodup h
  have hreverse : (es.reverse.map Prod.fst).Nodup := by
    rwa [List.map_reverse, List.nodup_reverse]
  unfold lastOfEach
  rw [hkeys, List.filterMap_map]
  refine (List.filterMap_congr fun e he => ?_).trans List.filterMap_some
  rw [Function.comp, lookup_of_mem hreverse (List.mem_reverse.2 he), Option.map_some]

/-- The keys of an accepted dictionary are distinct. -/
theorem nodup_keys_of_dictionary {read : Value → Verdict α} {v : Value}
    {es : List (String × α)} (h : dictionary read v = .accepted es) :
    (es.map Prod.fst).Nodup := by
  unfold dictionary at h
  split at h
  · obtain ⟨found, -, rfl⟩ := Verdict.map_eq_accepted.1 h
    exact nodup_keys_lastOfEach found
  · exact absurd h Verdict.refuse_ne_accepted

/-- What an accepted dictionary holds was read from a value in it. -/
theorem exists_of_mem_dictionary {read : Value → Verdict α} {v : Value} {es : List (String × α)}
    (h : dictionary read v = .accepted es) {e : String × α} (he : e ∈ es) :
    ∃ fields x, v = .dict fields ∧ x ∈ fields ∧ read x.2 = .accepted e.2 := by
  unfold dictionary at h
  split at h
  · obtain ⟨found, hfound, rfl⟩ := Verdict.map_eq_accepted.1 h
    have hmem : e ∈ found := by
      unfold lastOfEach at he
      obtain ⟨k, -, hk⟩ := List.mem_filterMap.1 he
      obtain ⟨a, ha, rfl⟩ := Option.map_eq_some_iff.1 hk
      exact List.mem_reverse.1 (mem_of_lookup ha)
    obtain ⟨x, hx, hread⟩ := exists_of_mem_left (entries_eq_accepted.1 hfound).flip hmem
    exact ⟨_, x, rfl, hx, hread.2⟩
  · exact absurd h Verdict.refuse_ne_accepted

end ApiJourney.Schema

namespace ApiJourney

/-! ## Attempts -/

theorem accepted_eq_ok {record : String} {v : Schema.Verdict α} {a : α} :
    accepted record v = .ok a ↔ v = .accepted a := by
  rw [accepted, mapError_eq_ok]
  cases v <;> simp [Schema.Verdict.toExcept]

theorem orFault_eq_ok {x : Except Fault α} {a : α} : orFault x = .ok a ↔ x = .ok a :=
  mapError_eq_ok

end ApiJourney
