-- SUMMARY: The values that YAML documents are read as hold no key twice.
import ApiJourney.Proofs.Outcome
import ApiJourney.Proofs.Value.Keys
import ApiJourney.Yaml.Document

/-!
# Keys of YAML documents

A key that is written twice makes a mapping malformed, and where mappings are merged, one
entry replaces the other. So what is read holds no key twice, at any depth.
-/

namespace ApiJourney

open Value

namespace Yaml

/-! ## Scalars -/

theorem integer_keyed (cs : List Char) :
    Ensures (Scalar.integer cs) (fun v => v.isKeyed = true) fun _ => True := by
  unfold Scalar.integer
  split
  split
  split <;> trivial

theorem decimal?_keyed {cs : List Char} {r : Except Fault Value} (h : Scalar.decimal? cs = some r) :
    Ensures r (fun v => v.isKeyed = true) fun _ => True := by
  unfold Scalar.decimal? at h
  split at h
  split_ifs at h
  · cases h; rfl
  · cases h; rfl
  · split at h <;> cases h <;> trivial

theorem words_keyed {w : String × Value} (h : w ∈ Scalar.words) : w.2.isKeyed = true := by
  revert w
  decide

theorem plainScalar_keyed (s : String) :
    Ensures (Scalar.value s) (fun v => v.isKeyed = true) fun _ => True := by
  unfold Scalar.value
  split
  · next v hv =>
    obtain ⟨front, back, hwords, -⟩ := List.lookup_eq_some_iff.1 hv
    exact words_keyed (w := (s, v)) (hwords ▸ by simp)
  · split
    · trivial
    · dsimp only
      split
      · next r hr => exact decimal?_keyed hr
      · split
        · exact integer_keyed _
        · rfl

theorem taggedScalar_keyed (kind s : String) :
    Ensures (taggedScalar kind s) (fun v => v.isKeyed = true) fun _ => True := by
  unfold taggedScalar
  split
  · rfl
  · rfl
  · exact integer_keyed _
  · dsimp only
    cases h : Scalar.decimal? s.toList with
    | none => trivial
    | some r => exact decimal?_keyed h
  · dsimp only
    split <;> trivial
  · trivial

theorem scalarValue_keyed (tag : Option Tag) (s : String) (bare : Bool) :
    Ensures (scalarValue tag s bare) (fun v => v.isKeyed = true) fun _ => True := by
  unfold scalarValue
  split
  · split
    · exact plainScalar_keyed s
    · rfl
  · exact plainScalar_keyed s
  · exact taggedScalar_keyed _ s
  · trivial

/-! ## Mappings -/

/-- The values of a field hold no key twice. -/
def Field.Keyed : Field → Prop
  | own _ v => v.isKeyed = true
  | merged es => ∀ e ∈ es, e.2.isKeyed = true

theorem mergedEntries_keyed {v : Value} (h : v.isKeyed = true) :
    Ensures (mergedEntries v) (fun es => ∀ e ∈ es, e.2.isKeyed = true) fun _ => True := by
  unfold mergedEntries
  split
  · next es => exact fun e he => isKeyed_of_mem h he
  · next xs =>
    refine (Ensures.mapM (Q := fun es => ∀ e ∈ es, e.2.isKeyed = true) ?_).bind ?_
    · intro x hx
      split
      · next es => exact fun e he => isKeyed_of_mem (keyedItems_iff.1 h _ hx) he
      · trivial
    · intro parts hparts e he
      obtain ⟨es, hes, he⟩ := List.mem_flatten.1 he
      exact hparts es (List.mem_reverse.1 hes) e he
  · trivial

theorem distinct_keyed {so es : Entries} (hso : keyedEntries so = true)
    (hes : ∀ e ∈ es, e.2.isKeyed = true) :
    Ensures (distinct so es) (fun es => keyedEntries es = true) fun _ => True := by
  induction es generalizing so with
  | nil => exact hso
  | cons e es ih =>
    obtain ⟨k, v⟩ := e
    rw [distinct]
    split
    · trivial
    · next hk =>
      rw [List.forall_mem_cons] at hes
      refine ih ?_ hes.2
      rw [← Entries.insert_of_find?_eq_none (by simpa [Entries.contains] using hk)]
      exact keyedEntries_insert hso k hes.1

theorem mappingOf_keyed {fields : List Field} (h : ∀ f ∈ fields, f.Keyed) :
    Ensures (mappingOf fields) (fun v => v.isKeyed = true) fun _ => True := by
  have hown : ∀ e ∈ fields.filterMap Field.own?, e.2.isKeyed = true := by
    intro e he
    obtain ⟨f, hf, hown⟩ := List.mem_filterMap.1 he
    have hkeyed := h f hf
    cases f <;> cases hown
    exact hkeyed
  unfold mappingOf
  split
  · exact (distinct_keyed rfl hown).bind fun es hes => hes
  · next es hes =>
    refine keyedEntries_ofList fun e he => (List.mem_append.1 he).elim ?_ (hown e)
    obtain ⟨f, hf, hmerged⟩ := List.mem_filterMap.1 (hes ▸ List.mem_singleton_self es)
    have hkeyed := h f hf
    cases f <;> cases hmerged
    exact hkeyed e
  · trivial

/-! ## Nodes -/

mutual

theorem Node.value_keyed : ∀ n : Node,
    Ensures n.value (fun v => v.isKeyed = true) fun _ => True
  | .scalar tag s bare => scalarValue_keyed tag s bare
  | .sequence tag items => by
    rw [Node.value]
    refine (Node.values_keyed items).bind fun xs hxs => ?_
    split
    · exact hxs
    · trivial
  | .mapping tag entries => by
    rw [Node.value]
    refine (Node.fields_keyed entries).bind fun fields hfields => ?_
    split
    · exact mappingOf_keyed hfields
    · trivial

theorem Node.values_keyed : ∀ ns : List Node,
    Ensures (Node.values ns) (fun xs => keyedItems xs = true) fun _ => True
  | [] => rfl
  | n :: rest => by
    rw [Node.values]
    refine n.value_keyed.bind fun x hx => (Node.values_keyed rest).bind fun xs hxs => ?_
    simp [keyedItems, hx, hxs]

theorem Node.fields_keyed : ∀ es : List (Node × Node),
    Ensures (Node.fields es) (fun fields => ∀ f ∈ fields, f.Keyed) fun _ => True
  | [] => by simp [Node.fields]
  | (k, v) :: rest => by
    rw [Node.fields]
    have hrest : ∀ field : Field, field.Keyed →
        Ensures (do let fields ← Node.fields rest; .ok (field :: fields))
          (fun fields => ∀ f ∈ fields, f.Keyed) fun _ => True := fun field hfield =>
      (Node.fields_keyed rest).bind fun fields hfields => List.forall_mem_cons.2 ⟨hfield, hfields⟩
    split
    · exact v.value_keyed.bind fun value hvalue =>
        (mergedEntries_keyed hvalue).bind fun merged hmerged => hrest (.merged merged) hmerged
    · have hkey : ∀ r : Except Fault Value, Ensures (do
          let key ← r
          let key ← keyOf key
          let value ← v.value
          let fields ← Node.fields rest
          .ok (Field.own key value :: fields))
          (fun fields => ∀ f ∈ fields, f.Keyed) fun _ => True := fun r =>
        (Ensures.vacuous r).bind fun key _ => (Ensures.vacuous (keyOf key)).bind fun key _ =>
          v.value_keyed.bind fun value hvalue => hrest (.own key value) hvalue
      dsimp only
      split
      · exact hkey (.ok _)
      · exact hkey k.value

end

theorem read_keyed (cs : List Char) :
    Ensures (read cs) (fun v => v.isKeyed = true) fun _ => True :=
  (Ensures.vacuous (tokens cs)).bind fun ts _ =>
    (Ensures.vacuous (Node.ofTokens ts)).bind fun n _ => n.value_keyed

end Yaml

end ApiJourney
