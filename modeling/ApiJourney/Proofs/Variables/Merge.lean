-- SUMMARY: What is found in merged objects: at each path the word of the last layer that touches it.
import ApiJourney.Proofs.Value.Keys
import ApiJourney.Variables.Layers

/-!
# Merged layers

Objects are merged key by key and everything else is replaced, so what stands at a path of
keys is decided by the layers that say something there: those that have a value at the path,
and those that have something else than an object on the way to it. Of these the last one
counts.
-/

namespace ApiJourney

/-! ## Paths of keys -/

namespace Value

def isObject : Value → Bool
  | .dict _ => true
  | _ => false

/-- The value that a path of keys leads to, from object to object. -/
def at? : Value → List Value → Option Value
  | v, [] => some v
  | .dict es, k :: path => (Entries.find? es k).bind fun v => v.at? path
  | _, _ :: _ => none

/-- Whether a path ends at a value, or is cut off by one that is no object. -/
def touches : Value → List Value → Bool
  | _, [] => true
  | .dict es, k :: path => (Entries.find? es k).any fun v => v.touches path
  | _, _ :: _ => true

/-- The value at a path, unless it is an object. -/
def leafAt? (v : Value) (path : List Value) : Option Value :=
  (v.at? path).filter fun w => !w.isObject

theorem leafAt?_eq_some {v w : Value} {path : List Value} :
    v.leafAt? path = some w ↔ v.at? path = some w ∧ w.isObject = false := by
  simp [leafAt?, Option.filter_eq_some_iff]

theorem isObject_iff {v : Value} : v.isObject = true ↔ ∃ es, v = .dict es := by
  cases v <;> simp [isObject]

@[simp] theorem leafAt?_dict_nil (es : Entries) : (Value.dict es).leafAt? [] = none := by
  simp [leafAt?, at?, isObject]

theorem leafAt?_dict_cons (es : Entries) (k : Value) (path : List Value) :
    (Value.dict es).leafAt? (k :: path) = (es.find? k).bind fun v => v.leafAt? path := by
  cases h : es.find? k <;> simp [leafAt?, at?, h]

theorem leafAt?_cons_of_not_object {v : Value} (h : v.isObject = false) (k : Value)
    (path : List Value) : v.leafAt? (k :: path) = none := by
  cases v <;> first | cases h; done | simp [leafAt?, at?]

theorem touches_dict_cons (es : Entries) (k : Value) (path : List Value) :
    (Value.dict es).touches (k :: path) = (es.find? k).any fun v => v.touches path := by
  rw [touches]

theorem touches_of_not_object {v : Value} (h : v.isObject = false) (path : List Value) :
    v.touches path = true := by
  cases path with
  | nil => rw [touches]
  | cons k path => cases v <;> first | cases h; done | rw [touches]; simp

/-- A path leads to what its end leads to from where its start leads. -/
theorem leafAt?_append (v : Value) (path rest : List Value) :
    v.leafAt? (path ++ rest) = (v.at? path).bind fun w => w.leafAt? rest := by
  induction path generalizing v with
  | nil => rfl
  | cons k path ih =>
    cases hv : v.isObject with
    | false =>
      rw [List.cons_append, leafAt?_cons_of_not_object hv]
      cases v <;> first | cases hv; done | simp [at?]
    | true =>
      obtain ⟨es, rfl⟩ := isObject_iff.1 hv
      rw [List.cons_append, leafAt?_dict_cons, at?]
      cases Entries.find? es k with
      | none => rfl
      | some w => exact ih w

theorem isKeyed_of_at? {v w : Value} (h : v.isKeyed = true) {path : List Value}
    (hw : v.at? path = some w) : w.isKeyed = true := by
  induction path generalizing v with
  | nil =>
    cases hw
    exact h
  | cons k path ih =>
    cases v with
    | dict es =>
      rw [at?] at hw
      obtain ⟨u, hu, hw⟩ := Option.bind_eq_some_iff.1 hw
      exact ih (isKeyed_of_find? h hu) hw
    | _ => simp [at?] at hw

/-- Nothing stands at a path that is not touched. -/
theorem leafAt?_of_not_touches {v : Value} {path : List Value} (h : v.touches path = false) :
    v.leafAt? path = none := by
  induction path generalizing v with
  | nil => rw [touches] at h; cases h
  | cons k path ih =>
    cases hv : v.isObject with
    | false => exact leafAt?_cons_of_not_object hv k path
    | true =>
      obtain ⟨es, rfl⟩ := isObject_iff.1 hv
      rw [touches_dict_cons] at h
      rw [leafAt?_dict_cons]
      cases hw : Entries.find? es k with
      | none => rfl
      | some w =>
        rw [hw] at h
        exact ih h

end Value

namespace Variables

open Value

/-! ## Merging -/

/-- What is found in a merged object: the value that was there, or what takes its place. -/
theorem find?_merge {source : Entries} (h : source.Distinct) (target : Entries) (k : Value) :
    (merge target source).find? k =
      ((source.find? k).map (mergeValue (target.find? k))).or (target.find? k) := by
  induction source generalizing target with
  | nil => rw [merge]; rfl
  | cons e source ih =>
    obtain ⟨key, v⟩ := e
    obtain ⟨hfresh, hsource⟩ := h
    rw [merge, ih hsource, Entries.find?_insert, Entries.find?_cons]
    by_cases hk : key.sameKey k = true
    · rw [if_pos hk, if_pos hk, ← Entries.find?_congr hk, ← Entries.find?_congr hk, hfresh]
      rfl
    · rw [if_neg hk, if_neg hk]

/-- The entries that an object is merged into. -/
def held : Option Value → Entries
  | some (.dict es) => es
  | _ => []

theorem held_eq (old : Option Value) :
    (∃ es, old = some (.dict es) ∧ held old = es) ∨ held old = [] := by
  unfold held
  split
  · exact .inl ⟨_, rfl, rfl⟩
  · exact .inr rfl

theorem mergeValue_dict (old : Option Value) (es : Entries) :
    mergeValue old (.dict es) = .dict (merge (held old) es) := by
  match old with
  | none => simp [mergeValue, held]
  | some v => cases v <;> simp [mergeValue, held]

theorem mergeValue_of_not_object {v : Value} (h : v.isObject = false) (old : Option Value) :
    mergeValue old v = v := by
  cases v <;> first | cases h; done | simp [mergeValue]

theorem leafAt?_held (old : Option Value) (k : Value) (path : List Value) :
    ((held old).find? k).bind (·.leafAt? path) = old.bind (·.leafAt? (k :: path)) := by
  match old with
  | none => rfl
  | some v =>
    cases hv : v.isObject with
    | true =>
      obtain ⟨es, rfl⟩ := isObject_iff.1 hv
      exact (leafAt?_dict_cons es k path).symm
    | false =>
      rw [Option.bind_some, leafAt?_cons_of_not_object hv]
      cases v <;> first | rfl | cases hv

theorem distinct_merge {target : Entries} (h : target.Distinct) (source : Entries) :
    Entries.Distinct (merge target source) := by
  induction source generalizing target with
  | nil => rwa [merge]
  | cons e source ih =>
    obtain ⟨k, v⟩ := e
    rw [merge]
    exact ih (Entries.distinct_insert h _ _)

theorem distinct_mergeAll (layers : List Entries) : Entries.Distinct (mergeAll layers) := by
  suffices h : ∀ merged : Entries, merged.Distinct →
      Entries.Distinct (layers.foldl (fun merged layer => merge merged layer) merged) from
    h [] trivial
  induction layers with
  | nil => exact fun _ h => h
  | cons layer layers ih => exact fun _ h => ih _ (distinct_merge h layer)

mutual

/-- Entries are put behind those of a target that holds none of their keys. -/
theorem merge_of_fresh {target : Entries} : ∀ {es : List (Value × Value)}, keyedEntries es = true →
    (∀ e ∈ es, target.find? e.1 = none) → merge target es = target ++ es
  | [], _, _ => by rw [merge, List.append_nil]
  | (k, v) :: rest, hkeyed, hfresh => by
    obtain ⟨hk, hv, hrest⟩ := keyedEntries_cons.1 hkeyed
    rw [List.forall_mem_cons] at hfresh
    have hbehind : ∀ e ∈ rest, Entries.find? (target ++ [(k, v)]) e.1 = none := by
      intro e he
      rw [← Entries.insert_of_find?_eq_none hfresh.1, Entries.find?_insert, if_neg, hfresh.2 e he]
      exact Entries.find?_eq_none.1 hk e he
    rw [merge, hfresh.1, mergeValue_none hv, Entries.insert_of_find?_eq_none hfresh.1,
      merge_of_fresh hrest hbehind, List.append_assoc, List.singleton_append]

/-- What is merged into nothing stays as it is. -/
theorem mergeValue_none : ∀ {v : Value}, v.isKeyed = true → mergeValue none v = v
  | .dict es, hkeyed => by
    have hheld : held none = [] := rfl
    rw [mergeValue_dict, hheld, merge_of_fresh hkeyed fun _ _ => rfl, List.nil_append]
  | .null, _ | .bool _, _ | .int _, _ | .float _, _ | .text _, _ | .bytes _, _ | .list _, _
  | .tuple _, _ | .complex _ _, _ | .ellipsis, _ | .foreign _, _ =>
    mergeValue_of_not_object rfl none

end

/-- At a path that the new value touches, it alone counts; elsewhere the old one does. -/
theorem leafAt?_mergeValue {v : Value} (h : v.isKeyed = true) (old : Option Value)
    (path : List Value) :
    (mergeValue old v).leafAt? path =
      if v.touches path then v.leafAt? path else old.bind (·.leafAt? path) := by
  induction path generalizing v old with
  | nil =>
    cases hv : v.isObject with
    | false => rw [mergeValue_of_not_object hv, touches, if_pos rfl]
    | true =>
      obtain ⟨es, rfl⟩ := isObject_iff.1 hv
      rw [mergeValue_dict, touches, if_pos rfl, leafAt?_dict_nil, leafAt?_dict_nil]
  | cons k path ih =>
    cases hv : v.isObject with
    | false => rw [mergeValue_of_not_object hv, touches_of_not_object hv, if_pos rfl]
    | true =>
      obtain ⟨es, rfl⟩ := isObject_iff.1 hv
      rw [mergeValue_dict, leafAt?_dict_cons, leafAt?_dict_cons, find?_merge (distinct_of_keyed h),
        touches_dict_cons, ← leafAt?_held]
      cases hw : Entries.find? es k with
      | none => rfl
      | some w => exact ih (isKeyed_of_find? h hw) _

/-! ## Layers -/

/-- The last layer that touches a path. -/
def lastTouching? (layers : List Entries) (path : List Value) : Option Entries :=
  layers.reverse.find? fun layer => (Value.dict layer).touches path

theorem leafAt?_mergeAll {layers : List Entries} (h : ∀ layer ∈ layers, keyedEntries layer = true)
    (path : List Value) :
    (Value.dict (mergeAll layers)).leafAt? path =
      (lastTouching? layers path).bind fun layer => (Value.dict layer).leafAt? path := by
  induction layers using List.reverseRecOn with
  | nil =>
    cases path with
    | nil => exact leafAt?_dict_nil []
    | cons k path => exact leafAt?_dict_cons [] k path
  | append_singleton layers layer ih =>
    have hlayers : ∀ l ∈ layers, keyedEntries l = true := fun l hl =>
      h l (List.mem_append_left _ hl)
    have hlayer : (Value.dict layer).isKeyed = true := h layer (by simp)
    have hstep : Value.dict (mergeAll (layers ++ [layer]))
        = mergeValue (some (.dict (mergeAll layers))) (.dict layer) := by
      rw [mergeValue_dict, mergeAll, List.foldl_append]
      rfl
    rw [hstep, leafAt?_mergeValue hlayer, lastTouching?, List.reverse_append, Option.bind_some,
      ih hlayers]
    cases ht : (Value.dict layer).touches path <;> simp [ht, lastTouching?]

/-- At a path that a layer touches, and no later one does, stands what this layer has there. -/
theorem leafAt?_mergeAll_of_last {before after : List Entries} {layer : Entries}
    (hkeyed : ∀ l ∈ before ++ layer :: after, keyedEntries l = true) {path : List Value}
    (htouches : (Value.dict layer).touches path = true)
    (h : ∀ l ∈ after, (Value.dict l).touches path = false) :
    (Value.dict (mergeAll (before ++ layer :: after))).leafAt? path =
      (Value.dict layer).leafAt? path := by
  have hlater : after.reverse.find? (fun l => (Value.dict l).touches path) = none := by
    rw [List.find?_eq_none]
    intro l hl
    simp [h l (List.mem_reverse.1 hl)]
  rw [leafAt?_mergeAll hkeyed, lastTouching?]
  simp [hlater, htouches]

/-- At a path that no later layer touches stands what the first layer has there. -/
theorem leafAt?_mergeAll_of_untouched {layer : Entries} {layers : List Entries}
    (hkeyed : ∀ l ∈ layer :: layers, keyedEntries l = true) {path : List Value}
    (h : ∀ l ∈ layers, (Value.dict l).touches path = false) :
    (Value.dict (mergeAll (layer :: layers))).leafAt? path = (Value.dict layer).leafAt? path := by
  have hlater : layers.reverse.find? (fun l => (Value.dict l).touches path) = none := by
    rw [List.find?_eq_none]
    intro l hl
    simp [h l (List.mem_reverse.1 hl)]
  rw [leafAt?_mergeAll hkeyed, lastTouching?, List.reverse_cons, List.find?_append, hlater,
    Option.none_or, List.find?_singleton]
  cases htouches : (Value.dict layer).touches path with
  | true => rfl
  | false => exact (leafAt?_of_not_touches htouches).symm

/-- What holds of the objects at a path in the parts, and is kept when objects are merged, holds of
    the object at the path in the whole. -/
theorem object_mergeValue {P : Entries → Prop} (hnil : P [])
    (hmerge : ∀ {target source : Entries}, P target → P source → P (merge target source))
    {path : List Value} {old : Option Value} {v : Value} (hkeyed : v.isKeyed = true)
    (hold : ∀ w ∈ old, ∀ es, w.at? path = some (.dict es) → P es)
    (hnew : ∀ es, v.at? path = some (.dict es) → P es) :
    ∀ es, (mergeValue old v).at? path = some (.dict es) → P es := by
  induction path generalizing old v with
  | nil =>
    cases hv : v.isObject with
    | false => rwa [mergeValue_of_not_object hv]
    | true =>
      obtain ⟨es, rfl⟩ := isObject_iff.1 hv
      rw [mergeValue_dict]
      rintro _ ⟨⟩
      refine hmerge ?_ (hnew es rfl)
      rcases held_eq old with ⟨fs, rfl, hheld⟩ | hheld
      · exact hheld ▸ hold _ rfl fs rfl
      · exact hheld ▸ hnil
  | cons k path ih =>
    cases hv : v.isObject with
    | false => rwa [mergeValue_of_not_object hv]
    | true =>
      obtain ⟨es, rfl⟩ := isObject_iff.1 hv
      -- What the target holds below `k` stands in the place of `old` one level deeper.
      have hheld : ∀ u ∈ (held old).find? k, ∀ es, u.at? path = some (.dict es) → P es := by
        intro u hu fs hfs
        rcases held_eq old with ⟨gs, rfl, hheld⟩ | hheld
        · refine hold _ rfl fs ?_
          rw [at?, ← hheld, hu]
          exact hfs
        · rw [hheld] at hu
          cases hu
      rw [mergeValue_dict]
      intro fs hfs
      rw [at?, find?_merge (distinct_of_keyed hkeyed)] at hfs
      cases hw : Entries.find? es k with
      | none =>
        rw [hw] at hfs
        obtain ⟨u, hu, hat⟩ := Option.bind_eq_some_iff.1 hfs
        exact hheld u hu fs hat
      | some w =>
        rw [hw] at hfs
        refine ih (isKeyed_of_find? hkeyed hw) hheld (fun gs hgs => hnew gs ?_) fs hfs
        rw [at?, hw]
        exact hgs

theorem dict_mergeAll_concat (layers : List Entries) (layer : Entries) :
    Value.dict (mergeAll (layers ++ [layer])) =
      mergeValue (some (.dict (mergeAll layers))) (.dict layer) := by
  rw [mergeValue_dict, mergeAll, List.foldl_append]
  rfl

theorem object_mergeAll {P : Entries → Prop} (hnil : P [])
    (hmerge : ∀ {target source : Entries}, P target → P source → P (merge target source))
    {path : List Value} {layers : List Entries}
    (hkeyed : ∀ layer ∈ layers, keyedEntries layer = true)
    (h : ∀ layer ∈ layers, ∀ es, (Value.dict layer).at? path = some (.dict es) → P es) :
    ∀ es, (Value.dict (mergeAll layers)).at? path = some (.dict es) → P es := by
  induction layers using List.reverseRecOn with
  | nil =>
    intro es hes
    cases path with
    | nil =>
      cases hes
      exact hnil
    | cons k path => cases hes
  | append_singleton layers layer ih =>
    simp only [List.forall_mem_append, List.forall_mem_singleton] at hkeyed h
    rw [dict_mergeAll_concat]
    apply object_mergeValue (v := .dict layer) hnil hmerge hkeyed.2 _ h.2
    rintro _ ⟨⟩
    exact ih hkeyed.1 h.1

/-- Of what is no object, a path leads to exactly what the last layer that touches the path
    holds there. -/
def LastWriterWins (merged : Entries) (layers : List Entries) : Prop :=
  ∀ (path : List Value) (v : Value), v.isObject = false →
    ((Value.dict merged).at? path = some v ↔
      ∃ layer, lastTouching? layers path = some layer ∧ (Value.dict layer).at? path = some v)

theorem mergeAll_lastWriterWins {layers : List Entries}
    (h : ∀ layer ∈ layers, keyedEntries layer = true) :
    LastWriterWins (mergeAll layers) layers := by
  intro path v hv
  have hmerged := leafAt?_mergeAll h path
  have hleaf : ∀ w : Value, w.at? path = some v ↔ w.leafAt? path = some v := fun w => by
    rw [leafAt?_eq_some, and_iff_left hv]
  rw [hleaf, hmerged, Option.bind_eq_some_iff]
  simp only [hleaf]

end Variables

end ApiJourney
