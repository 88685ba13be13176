-- SUMMARY: JSON values are strictly equal when they mean the same.
import ApiJourney.Proofs.Keys
import ApiJourney.Proofs.Value.Keys

/-!
# Strict equality

A JSON value means a truth value, an exact number, a text, a list of meanings, or a function from
names to meanings. There the type of a number and the order of the entries of an object are gone.
Two JSON values are strictly equal when they mean the same, so that strict equality is an
equivalence.
-/

namespace ApiJourney.Value

/-! ## JSON values -/

/-- What a JSON document can hold: no NaN, and in an object texts for keys and none of them
    twice. -/
inductive IsJson : Value → Prop where
  | null : IsJson .null
  | bool (b : Bool) : IsJson (.bool b)
  | int (n : Int) : IsJson (.int n)
  | float {x : Float} (h : Binary64.reading x ≠ .nan) : IsJson (.float x)
  | text (s : String) : IsJson (.text s)
  | list {items : List Value} (h : ∀ v ∈ items, IsJson v) : IsJson (.list items)
  | object {fields : List (String × Value)} (hkeys : (fields.map Prod.fst).Nodup)
      (h : ∀ f ∈ fields, IsJson f.2) : IsJson (.object fields)

/-! ## Meaning -/

inductive Meaning where
  | null
  | bool (b : Bool)
  /-- A signed infinity or a fraction; a NaN is none of them. -/
  | number (x : Option (Bool ⊕ ℚ))
  | text (s : String)
  | list (items : List Meaning)
  | object (fields : String → Option Meaning)
  /-- What no JSON document holds. -/
  | other

mutual

def meaning : Value → Meaning
  | .null => .null
  | .bool b => .bool b
  | .int n => .number (Reading.ofInt n).exactValue?
  | .float x => .number (Binary64.reading x).exactValue?
  | .text s => .text s
  | .list xs => .list (itemMeanings xs)
  | .dict es => .object (entryMeaning es)
  | _ => .other

def itemMeanings : List Value → List Meaning
  | [] => []
  | x :: rest => meaning x :: itemMeanings rest

/-- The meaning of what is found under a name. -/
def entryMeaning : List (Value × Value) → String → Option Meaning
  | [], _ => none
  | (k, v) :: rest, name =>
    if k.sameKey (.text name) then some (meaning v) else entryMeaning rest name

end

theorem meaning_list (xs : List Value) : (list xs).meaning = .list (xs.map meaning) := by
  have hitems : itemMeanings xs = xs.map meaning := by
    induction xs with
    | nil => rfl
    | cons x xs ih => rw [itemMeanings, ih, List.map_cons]
  rw [meaning, hitems]

theorem meaning_object (fields : List (String × Value)) :
    (object fields).meaning = .object fun name => (fields.lookup name).map meaning := by
  rw [object, meaning]
  congr 1
  funext name
  induction fields with
  | nil => rfl
  | cons f fields ih =>
    rw [List.map_cons, entryMeaning, ih, sameKey_text, lookup_cons_ite]
    simp only [beq_iff_eq, eq_comm (a := f.1)]
    split <;> rfl

/-! ## Numbers -/

theorem sameNumber_ofInt (m n : Int) : sameNumber (.ofInt m) (.ofInt n) = (m == n) := by
  rw [Bool.eq_iff_iff, sameNumber, beq_iff_eq, beq_iff_eq, Reading.order_eq_iff, eq_comm]
  simp [Reading.exactValue?, Reading.ofInt]

/-- Numbers of any type are strictly equal when they are the same number. -/
theorem strictEqual_numbers {a b : Value} {x y : Reading} (ha : a.isNumber = true)
    (hb : b.isNumber = true) (hx : a.reading? = some x) (hy : b.reading? = some y) :
    a.strictEqual b = sameNumber x y := by
  cases a with
  | int m =>
    cases hx
    cases b with
    | int n =>
      cases hy
      rw [sameNumber_ofInt, strictEqual]
    | float y =>
      cases hy
      rw [strictEqual]
    | _ => cases hb
  | float x =>
    cases hx
    cases b with
    | int n =>
      cases hy
      rw [strictEqual]
    | float y =>
      cases hy
      rw [strictEqual]
    | _ => cases hb
  | _ => cases ha

theorem meaning_number {a : Value} {x : Reading} (ha : a.isNumber = true)
    (hx : a.reading? = some x) : a.meaning = .number x.exactValue? := by
  cases a <;> cases ha <;> cases hx <;> rfl

/-- Numbers other than NaN are strictly equal when their exact values are. -/
theorem strictEqual_numbers_iff {a b : Value} {x y : Reading} (ha : a.isNumber = true)
    (hb : b.isNumber = true) (hx : a.reading? = some x) (hy : b.reading? = some y)
    (hnan : x ≠ .nan) : a.strictEqual b = true ↔ a.meaning = b.meaning := by
  obtain ⟨p, hp⟩ : ∃ p, x.exactValue? = some p := by
    cases x <;> simp_all [Reading.exactValue?]
  rw [strictEqual_numbers ha hb hx hy, meaning_number ha hx, meaning_number hb hy, sameNumber,
    beq_iff_eq, Reading.order_eq_iff, hp]
  simp [eq_comm]

/-! ## Lists and objects -/

theorem strictItems_iff {xs ys : List Value} :
    strictItems xs ys = true ↔ List.Forall₂ (fun x y => x.strictEqual y = true) xs ys := by
  induction xs generalizing ys with
  | nil => cases ys <;> simp [strictItems]
  | cons x xs ih => cases ys <;> simp [strictItems, ih]

theorem find?_object (fields : List (String × Value)) (key : String) :
    Entries.find? (fields.map fun (k, v) => (text k, v)) (.text key) = fields.lookup key := by
  induction fields with
  | nil => rfl
  | cons f fields ih =>
    rw [List.map_cons, Entries.find?_cons, ih, sameKey_text, lookup_cons_ite]
    simp only [beq_iff_eq, eq_comm (a := f.1)]

theorem strictEntries_object {fields fields' : List (String × Value)} :
    strictEntries (fields.map fun (k, v) => (text k, v)) (fields'.map fun (k, v) => (text k, v)) = true
      ↔ ∀ f ∈ fields, ∃ w, fields'.lookup f.1 = some w ∧ f.2.strictEqual w = true := by
  induction fields with
  | nil => simp [strictEntries]
  | cons f fields ih =>
    rw [List.map_cons, strictEntries, find?_object, Bool.and_eq_true, ih, List.forall_mem_cons]
    cases fields'.lookup f.1 <;> simp

theorem strictEqual_object {fields fields' : List (String × Value)} :
    (object fields).strictEqual (object fields') = true ↔
      fields.length = fields'.length ∧
        ∀ f ∈ fields, ∃ w, fields'.lookup f.1 = some w ∧ f.2.strictEqual w = true := by
  rw [object, object, strictEqual, Bool.and_eq_true, Bool.and_eq_true, strictEntries_object,
    List.length_map, List.length_map, beq_iff_eq]
  constructor
  · rintro ⟨⟨hlength, -⟩, hall⟩
    exact ⟨hlength, hall⟩
  · rintro ⟨hlength, hall⟩
    refine ⟨⟨hlength, ?_⟩, hall⟩
    simp only [List.all_map, List.all_eq_true, Function.comp_apply, Entries.contains, find?_object]
    intro f hf
    obtain ⟨w, hw, -⟩ := hall f hf
    rw [hw, Option.isSome_some]

/-! ## Equality of meaning -/

/-- Lists whose items are equal when they mean the same are so themselves. -/
theorem forall₂_iff_map_eq {xs ys : List Value}
    (h : ∀ x ∈ xs, ∀ y ∈ ys, (x.strictEqual y = true ↔ x.meaning = y.meaning)) :
    List.Forall₂ (fun x y => x.strictEqual y = true) xs ys ↔
      xs.map meaning = ys.map meaning := by
  induction xs generalizing ys with
  | nil => cases ys <;> simp
  | cons x xs ih =>
    cases ys with
    | nil => simp
    | cons y ys =>
      have hfirst := h x List.mem_cons_self y List.mem_cons_self
      have hrest : List.Forall₂ (fun x y => x.strictEqual y = true) xs ys ↔
          xs.map meaning = ys.map meaning :=
        ih fun x' hx' y' hy' => h x' (List.mem_cons_of_mem _ hx') y' (List.mem_cons_of_mem _ hy')
      simp [hfirst, hrest]

section Objects

variable {fields fields' : List (String × Value)}

/-- Of two objects with as many fields, one has all names of the other if that has all of its. -/
theorem keys_subset (hkeys : (fields.map Prod.fst).Nodup) (hlength : fields.length = fields'.length)
    (hsub : fields.map Prod.fst ⊆ fields'.map Prod.fst) :
    fields'.map Prod.fst ⊆ fields.map Prod.fst := by
  have hperm := (hkeys.subperm hsub).perm_of_length_le (by simp [hlength])
  exact hperm.symm.subset

/-- Objects whose fields are equal when they mean the same are so themselves. -/
theorem strictEqual_object_iff (hkeys : (fields.map Prod.fst).Nodup)
    (hkeys' : (fields'.map Prod.fst).Nodup)
    (h : ∀ f ∈ fields, ∀ f' ∈ fields', (f.2.strictEqual f'.2 = true ↔ f.2.meaning = f'.2.meaning)) :
    (object fields).strictEqual (object fields') = true ↔
      (object fields).meaning = (object fields').meaning := by
  rw [strictEqual_object, meaning_object, meaning_object, Meaning.object.injEq, funext_iff]
  constructor
  · rintro ⟨hlength, hall⟩ name
    have hsub : fields.map Prod.fst ⊆ fields'.map Prod.fst := by
      intro key hkey
      obtain ⟨f, hf, rfl⟩ := List.mem_map.1 hkey
      obtain ⟨w, hw, -⟩ := hall f hf
      exact isSome_lookup_iff.1 (by rw [hw, Option.isSome_some])
    cases hv : fields.lookup name with
    | some v =>
      obtain ⟨w, hw, hequal⟩ := hall (name, v) (mem_of_lookup hv)
      rw [hw, Option.map_some, Option.map_some,
        (h (name, v) (mem_of_lookup hv) (name, w) (mem_of_lookup hw)).1 hequal]
    | none =>
      -- Equally many distinct keys, all of one among the other's: the two have the same keys.
      have hnone : fields'.lookup name = none := by
        rw [← Option.not_isSome_iff_eq_none, isSome_lookup_iff] at hv ⊢
        exact fun hmem => hv (keys_subset hkeys hlength hsub hmem)
      rw [hnone]
  · intro hmeaning
    constructor
    · have hperm : (fields.map Prod.fst).Perm (fields'.map Prod.fst) := by
        rw [List.perm_ext_iff_of_nodup hkeys hkeys']
        intro name
        rw [← isSome_lookup_iff, ← isSome_lookup_iff, ← Option.isSome_map (f := meaning),
          hmeaning name, Option.isSome_map]
      simpa using hperm.length_eq
    · intro f hf
      have hfound := hmeaning f.1
      rw [lookup_of_mem hkeys hf, Option.map_some, eq_comm, Option.map_eq_some_iff] at hfound
      obtain ⟨w, hw, hequal⟩ := hfound
      exact ⟨w, hw, (h f hf (f.1, w) (mem_of_lookup hw)).2 hequal.symm⟩

end Objects

/-- JSON values are strictly equal when they mean the same. -/
theorem strictEqual_iff_meaning {a b : Value} (ha : IsJson a) (hb : IsJson b) :
    a.strictEqual b = true ↔ a.meaning = b.meaning := by
  induction ha generalizing b with
  | null => cases hb <;> simp [strictEqual, meaning, object]
  | bool p => cases hb <;> simp [strictEqual, meaning, object]
  | text s => cases hb <;> simp [strictEqual, meaning, object]
  | int m =>
    have hm : Reading.ofInt m ≠ .nan := by simp [Reading.ofInt]
    cases hb with
    | int => exact strictEqual_numbers_iff rfl rfl rfl rfl hm
    | float => exact strictEqual_numbers_iff rfl rfl rfl rfl hm
    | _ => simp [strictEqual, meaning, object]
  | float hx =>
    cases hb with
    | int => exact strictEqual_numbers_iff rfl rfl rfl rfl hx
    | float => exact strictEqual_numbers_iff rfl rfl rfl rfl hx
    | _ => simp [strictEqual, meaning, object]
  | @list xs _ ih =>
    cases hb with
    | @list ys hys =>
      rw [strictEqual, strictItems_iff, meaning_list, meaning_list, Meaning.list.injEq]
      exact forall₂_iff_map_eq fun x hx y hy => ih x hx (hys y hy)
    | _ => simp [strictEqual, meaning, object]
  | @object fields hkeys _ ih =>
    cases hb with
    | @object fields' hkeys' h' =>
      exact strictEqual_object_iff hkeys hkeys' fun f hf f' hf' => ih f hf (h' f' hf')
    | _ => simp [strictEqual, meaning, object]

/-! ## Order of entries -/

/-- The same value, with the entries of objects in it in another order at any depth. -/
inductive Reordered : Value → Value → Prop where
  | refl (v : Value) : Reordered v v
  | trans {a b c : Value} : Reordered a b → Reordered b c → Reordered a c
  | entries {fields fields' : List (String × Value)} :
      fields.Perm fields' → Reordered (.object fields) (.object fields')
  | item {before after : List Value} {v w : Value} :
      Reordered v w → Reordered (.list (before ++ v :: after)) (.list (before ++ w :: after))
  | field {before after : List (String × Value)} {name : String} {v w : Value} :
      Reordered v w →
      Reordered (.object (before ++ (name, v) :: after)) (.object (before ++ (name, w) :: after))

theorem isJson_list_iff {items : List Value} :
    IsJson (.list items) ↔ ∀ v ∈ items, IsJson v := by
  constructor
  · intro h
    cases h with
    | list h => exact h
  · exact .list

theorem object_injective {fields fields' : List (String × Value)}
    (h : object fields = object fields') : fields = fields' := by
  simp only [object, Value.dict.injEq] at h
  refine List.map_injective_iff.2 ?_ h
  rintro ⟨k, v⟩ ⟨k', v'⟩ heq
  simpa using heq

theorem isJson_object_iff {fields : List (String × Value)} :
    IsJson (.object fields) ↔ (fields.map Prod.fst).Nodup ∧ ∀ f ∈ fields, IsJson f.2 := by
  constructor
  · intro h
    generalize hv : object fields = v at h
    cases h with
    | object hkeys h =>
      cases object_injective hv
      exact ⟨hkeys, h⟩
    | _ => cases hv
  · rintro ⟨hkeys, h⟩
    exact .object hkeys h

/-- In another order the same is found under a name. -/
theorem lookup_perm {fields fields' : List (String × Value)} (h : fields.Perm fields')
    (hkeys : (fields.map Prod.fst).Nodup) (name : String) :
    fields.lookup name = fields'.lookup name := by
  have hkeys' := (h.map Prod.fst).nodup_iff.1 hkeys
  ext v
  constructor
  · intro hv
    exact lookup_of_mem hkeys' (h.mem_iff.1 (mem_of_lookup hv))
  · intro hv
    exact lookup_of_mem hkeys (h.mem_iff.2 (mem_of_lookup hv))

/-- The order of entries has no meaning. -/
theorem Reordered.keeps {a b : Value} (h : Reordered a b) (ha : IsJson a) :
    IsJson b ∧ a.meaning = b.meaning := by
  induction h with
  | refl => exact ⟨ha, rfl⟩
  | trans _ _ ih ih' =>
    obtain ⟨hb, hab⟩ := ih ha
    obtain ⟨hc, hbc⟩ := ih' hb
    exact ⟨hc, hab.trans hbc⟩
  | entries hperm =>
    obtain ⟨hkeys, hvalues⟩ := isJson_object_iff.1 ha
    refine ⟨.object ((hperm.map Prod.fst).nodup_iff.1 hkeys) ?_, ?_⟩
    · exact fun f hf => hvalues f (hperm.mem_iff.2 hf)
    · rw [meaning_object, meaning_object]
      simp only [lookup_perm hperm hkeys]
  | item _ ih =>
    rw [isJson_list_iff, List.forall_mem_append, List.forall_mem_cons] at ha
    obtain ⟨hbefore, hv, hafter⟩ := ha
    obtain ⟨hw, hvw⟩ := ih hv
    refine ⟨.list ?_, ?_⟩
    · rw [List.forall_mem_append, List.forall_mem_cons]
      exact ⟨hbefore, hw, hafter⟩
    · simp only [meaning_list, List.map_append, List.map_cons, hvw]
  | field _ ih =>
    rw [isJson_object_iff, List.forall_mem_append, List.forall_mem_cons] at ha
    obtain ⟨hkeys, hbefore, hv, hafter⟩ := ha
    obtain ⟨hw, hvw⟩ := ih hv
    refine ⟨.object ?_ ?_, ?_⟩
    · simpa using hkeys
    · rw [List.forall_mem_append, List.forall_mem_cons]
      exact ⟨hbefore, hw, hafter⟩
    · rw [meaning_object, meaning_object]
      -- The field keeps its name and the others are untouched, so every look-up is the same.
      congr 1
      funext name
      simp only [List.lookup_append, lookup_cons_ite, Option.map_or]
      split <;> simp [hvw]

/-! ## Equivalence -/

/-- Strict equality of JSON values is an equivalence, the order of entries makes no difference to
    it, and it is equality of meaning. -/
theorem strictEqual_equivalence :
    Equivalence (fun a b : { v : Value // IsJson v } => a.1.strictEqual b.1 = true) ∧
      (∀ a a' b b' : Value, IsJson a → IsJson b → Reordered a a' → Reordered b b' →
        a'.strictEqual b' = a.strictEqual b) ∧
      ∀ a b : Value, IsJson a → IsJson b →
        (a.strictEqual b = true ↔ a.meaning = b.meaning) := by
  refine ⟨⟨?_, ?_, ?_⟩, ?_, fun a b ha hb => strictEqual_iff_meaning ha hb⟩
  · rintro ⟨a, ha⟩
    exact (strictEqual_iff_meaning ha ha).2 rfl
  · rintro ⟨a, ha⟩ ⟨b, hb⟩ hab
    rw [strictEqual_iff_meaning ha hb] at hab
    exact (strictEqual_iff_meaning hb ha).2 hab.symm
  · rintro ⟨a, ha⟩ ⟨b, hb⟩ ⟨c, hc⟩ hab hbc
    rw [strictEqual_iff_meaning ha hb] at hab
    rw [strictEqual_iff_meaning hb hc] at hbc
    exact (strictEqual_iff_meaning ha hc).2 (hab.trans hbc)
  · intro a a' b b' ha hb hreordered hreordered'
    obtain ⟨ha', hmeaning⟩ := hreordered.keeps ha
    obtain ⟨hb', hmeaning'⟩ := hreordered'.keeps hb
    rw [Bool.eq_iff_iff, strictEqual_iff_meaning ha' hb', strictEqual_iff_meaning ha hb, hmeaning,
      hmeaning']

/-- An order with its parts in the one order, and integers for its numbers. -/
def wholeOrder : Value :=
  .object [("id", .int 1), ("items", .list [.bool true, .object [("sku", .null), ("price", .int 0)]])]

/-- The same with its parts in the other order, and doubles for its numbers. -/
def doubleOrder : Value :=
  .object [
    ("items", .list [.bool true, .object [("price", .float (Binary64.zero true)), ("sku", .null)]]),
    ("id", .float 1.0)]

theorem wholeOrder_isJson : IsJson wholeOrder := by
  have hitem : IsJson (.object [("sku", .null), ("price", .int 0)]) := by
    rw [isJson_object_iff]
    simp [IsJson.null, IsJson.int]
  rw [wholeOrder, isJson_object_iff]
  simp [IsJson.int, isJson_list_iff, IsJson.bool, hitem]

theorem doubleOrder_isJson : IsJson doubleOrder := by
  have hzero : IsJson (.float (Binary64.zero true)) := .float (by decide)
  have hone : IsJson (.float 1.0) := .float (by decide)
  have hitem : IsJson (.object [("price", .float (Binary64.zero true)), ("sku", .null)]) := by
    rw [isJson_object_iff]
    simp [IsJson.null, hzero]
  rw [doubleOrder, isJson_object_iff]
  simp [hone, isJson_list_iff, IsJson.bool, hitem]

/-- Both orders mean the same, and so they are equal both ways. -/
theorem orders_equal :
    IsJson wholeOrder ∧ IsJson doubleOrder ∧ wholeOrder.strictEqual doubleOrder = true ∧
      doubleOrder.strictEqual wholeOrder = true ∧ wholeOrder.meaning = doubleOrder.meaning := by
  obtain ⟨hequivalence, -, hmeaning⟩ := strictEqual_equivalence
  have hequal : wholeOrder.strictEqual doubleOrder = true := by decide +kernel
  let whole : { v : Value // IsJson v } := ⟨wholeOrder, wholeOrder_isJson⟩
  let double : { v : Value // IsJson v } := ⟨doubleOrder, doubleOrder_isJson⟩
  have hsymm : double.1.strictEqual whole.1 = true := hequivalence.symm hequal
  exact ⟨whole.2, double.2, hequal, hsymm, (hmeaning _ _ whole.2 double.2).1 hequal⟩

end ApiJourney.Value
