-- SUMMARY: Which keys take the same place, what is found under a key, and values without repeated keys.
import ApiJourney.Value.Equality
import Mathlib

/-!
# Keys of objects

Two keys take the same place when they are the same number, whatever their types, or have
the same content. So taking the same place is symmetric and transitive, though a NaN takes no
place at all, and an insertion changes what is found under the keys of one place only.
-/

namespace ApiJourney

/-! ## Numbers -/

namespace Reading

/-- The number of a reading, a signed infinity or a fraction; a NaN is none. -/
def exactValue? : Reading → Option (Bool ⊕ ℚ)
  | .nan => none
  | .infinite negative => some (.inl negative)
  | .finite mantissa exponent => some (.inr (mantissa * 2 ^ exponent))

theorem inUnits_mul {m e unit : Int} (h : unit ≤ e) :
    (inUnits m e unit : ℚ) * 2 ^ unit = m * 2 ^ e := by
  obtain ⟨n, rfl⟩ := Int.le.dest h
  have hpow : (2 : ℚ) ^ (unit + n) = 2 ^ unit * 2 ^ n := by
    rw [zpow_add₀ two_ne_zero, zpow_natCast]
  rw [inUnits, add_sub_cancel_left, Int.toNat_natCast, hpow, Nat.pow_eq]
  push_cast
  ring

theorem order_eq_iff {a b : Reading} :
    a.order b = some .eq ↔ ∃ x, a.exactValue? = some x ∧ b.exactValue? = some x := by
  cases a with
  | nan => simp [order, exactValue?]
  | infinite p =>
    cases b with
    | nan => simp [order, exactValue?]
    | infinite q => cases p <;> cases q <;> simp [order, exactValue?]
    | finite n f => cases p <;> simp [order, exactValue?]
  | finite m e =>
    cases b with
    | nan => simp [order, exactValue?]
    | infinite q => cases q <;> simp [order, exactValue?]
    | finite n f =>
      have hunit : (2 : ℚ) ^ min e f ≠ 0 := zpow_ne_zero _ two_ne_zero
      have hm := inUnits_mul (m := m) (min_le_left e f)
      have hn := inUnits_mul (m := n) (min_le_right e f)
      simp only [order, exactValue?, Option.some.injEq, compare_eq_iff_eq, exists_eq_left',
        Sum.inr.injEq]
      rw [← hm, ← hn, mul_left_inj' hunit, Int.cast_inj, eq_comm]

end Reading

/-! ## Places -/

namespace Value

/-- What tells a key from others: its number, whatever its type, or its content. -/
inductive Place where
  | null
  | number (re im : Bool ⊕ ℚ)
  | text (s : String)
  | bytes (bs : List UInt8)
  | tuple (items : List Place)
  | ellipsis
  | foreign (x : Foreign)

def numberPlace? (re im : Reading) : Option Place := do
  some (.number (← re.exactValue?) (← im.exactValue?))

mutual

/-- The place of a key; a NaN takes none, nor does a list or an object. -/
def place? : Value → Option Place
  | .null => some .null
  | .bool b => numberPlace? (.ofInt (if b then 1 else 0)) (.ofInt 0)
  | .int n => numberPlace? (.ofInt n) (.ofInt 0)
  | .float x => numberPlace? (Binary64.reading x) (.ofInt 0)
  | .text s => some (.text s)
  | .bytes bs => some (.bytes bs)
  | .list _ => none
  | .tuple xs => (places? xs).map .tuple
  | .dict _ => none
  | .complex re im => numberPlace? (Binary64.reading re) (Binary64.reading im)
  | .ellipsis => some .ellipsis
  | .foreign x => some (.foreign x)

def places? : List Value → Option (List Place)
  | [] => some []
  | x :: rest => do
    let p ← place? x
    let ps ← places? rest
    some (p :: ps)

end

theorem places?_cons_eq_some {x : Value} {xs : List Value} {ps : List Place} :
    places? (x :: xs) = some ps ↔
      ∃ p ps', x.place? = some p ∧ places? xs = some ps' ∧ ps = p :: ps' := by
  cases hx : x.place? <;> cases hxs : places? xs <;> simp [places?, hx, hxs, eq_comm]

theorem places?_nil_ne_cons {x : Value} {xs : List Value} :
    ¬ ∃ ps, places? [] = some ps ∧ places? (x :: xs) = some ps := by
  rintro ⟨ps, hnil, hcons⟩
  obtain ⟨p, ps', -, -, rfl⟩ := places?_cons_eq_some.1 hcons
  cases hnil

theorem numberPlace?_eq_some {re im : Reading} {p : Place} :
    numberPlace? re im = some p ↔
      ∃ x y, re.exactValue? = some x ∧ im.exactValue? = some y ∧ p = .number x y := by
  cases hre : re.exactValue? <;> cases him : im.exactValue? <;>
    simp [numberPlace?, hre, him, eq_comm]

theorem sameNumbers_iff {a b c d : Reading} :
    (sameNumber a b && sameNumber c d) = true ↔
      ∃ p, numberPlace? a c = some p ∧ numberPlace? b d = some p := by
  simp only [Bool.and_eq_true, sameNumber, beq_iff_eq, Reading.order_eq_iff, numberPlace?_eq_some]
  constructor
  · rintro ⟨⟨x, ha, hb⟩, y, hc, hd⟩
    exact ⟨.number x y, ⟨x, y, ha, hc, rfl⟩, x, y, hb, hd, rfl⟩
  · rintro ⟨p, ⟨x, y, ha, hc, rfl⟩, x', y', hb, hd, heq⟩
    cases heq
    exact ⟨⟨x, ha, hb⟩, y, hc, hd⟩

theorem place?_of_parts {a : Value} {re im : Reading} (h : a.parts? = some (re, im)) :
    a.place? = numberPlace? re im := by
  cases a <;> simp_all [parts?, reading?, place?]

theorem place?_ne_number {a : Value} (h : a.parts? = none) (x y : Bool ⊕ ℚ) :
    a.place? ≠ some (.number x y) := by
  cases a <;> simp_all [parts?, reading?, place?]

theorem sameAtom_number {a b : Value} (h : a.parts?.isSome ≠ b.parts?.isSome) :
    sameAtom a b = false := by
  cases ha : a.parts? <;> cases hb : b.parts? <;> simp_all [sameAtom]
  · cases b <;> simp_all [parts?, reading?]
  · cases a <;> simp_all [parts?, reading?]

/-- Two values that are no numbers, nor both tuples. -/
theorem sameAtom_plain {a b : Value} (ha : a.parts? = none) (hb : b.parts? = none)
    (h : ∀ xs ys, a = .tuple xs → b = .tuple ys → False) :
    sameAtom a b = true ↔ ∃ p, a.place? = some p ∧ b.place? = some p := by
  cases a <;> first | cases ha; done | skip
  all_goals cases b <;> first | cases hb; done | skip
  all_goals first | exact (h _ _ rfl rfl).elim | simp [sameAtom, parts?, reading?, place?]
  all_goals exact eq_comm

theorem sameAtom_iff {a b : Value} (h : ∀ xs ys, a = .tuple xs → b = .tuple ys → False) :
    sameAtom a b = true ↔ ∃ p, a.place? = some p ∧ b.place? = some p := by
  cases ha : a.parts? with
  | some x =>
    cases hb : b.parts? with
    | some y =>
      rw [place?_of_parts ha, place?_of_parts hb, ← sameNumbers_iff]
      simp [sameAtom, ha, hb]
    | none =>
      rw [sameAtom_number (by simp [ha, hb]), place?_of_parts ha]
      refine iff_of_false Bool.false_ne_true ?_
      rintro ⟨p, hp, hq⟩
      obtain ⟨x, y, -, -, rfl⟩ := numberPlace?_eq_some.1 hp
      exact place?_ne_number hb _ _ hq
  | none =>
    cases hb : b.parts? with
    | some y =>
      rw [sameAtom_number (by simp [ha, hb]), place?_of_parts hb]
      refine iff_of_false Bool.false_ne_true ?_
      rintro ⟨p, hq, hp⟩
      obtain ⟨x, y, -, -, rfl⟩ := numberPlace?_eq_some.1 hp
      exact place?_ne_number ha _ _ hq
    | none => exact sameAtom_plain ha hb h

theorem sameKey_iff (a b : Value) :
    sameKey a b = true ↔ ∃ p, a.place? = some p ∧ b.place? = some p := by
  -- Tuples are keys by their items, so both functions are followed at once.
  apply sameKey.induct (fun a b => sameKey a b = true ↔ ∃ p, a.place? = some p ∧ b.place? = some p)
    (fun xs ys => sameKeys xs ys = true ↔ ∃ ps, places? xs = some ps ∧ places? ys = some ps)
  case case1 =>
    intro xs ys ih
    simp only [sameKey, ih, place?, Option.map_eq_some_iff]
    constructor
    · rintro ⟨ps, hx, hy⟩
      exact ⟨.tuple ps, ⟨ps, hx, rfl⟩, ps, hy, rfl⟩
    · rintro ⟨p, ⟨ps, hx, rfl⟩, qs, hy, heq⟩
      cases heq
      exact ⟨ps, hx, hy⟩
  case case2 =>
    intro a b h
    rw [sameKey, sameAtom_iff h]
    exact h
  case case3 => simp [sameKeys, places?]
  case case4 =>
    intro x xs y ys ihx ihxs
    simp only [sameKeys, Bool.and_eq_true, ihx, ihxs, places?_cons_eq_some]
    constructor
    · rintro ⟨⟨p, hx, hy⟩, ps, hxs, hys⟩
      exact ⟨p :: ps, ⟨p, ps, hx, hxs, rfl⟩, p, ps, hy, hys, rfl⟩
    · rintro ⟨_, ⟨p, ps, hx, hxs, rfl⟩, q, qs, hy, hys, heq⟩
      cases heq
      exact ⟨⟨p, hx, hy⟩, ps, hxs, hys⟩
  case case5 =>
    intro xs ys hnil hcons
    cases xs <;> cases ys
    · exact (hnil rfl rfl).elim
    · exact iff_of_false Bool.false_ne_true places?_nil_ne_cons
    · exact iff_of_false Bool.false_ne_true fun ⟨ps, hcons, hnil⟩ =>
        places?_nil_ne_cons ⟨ps, hnil, hcons⟩
    · exact (hcons _ _ _ _ rfl rfl).elim

theorem sameKey_comm (a b : Value) : a.sameKey b = b.sameKey a := by
  rw [Bool.eq_iff_iff, sameKey_iff, sameKey_iff]
  simp only [and_comm]

theorem sameKey_congr {a b : Value} (h : a.sameKey b = true) (c : Value) :
    a.sameKey c = b.sameKey c := by
  obtain ⟨p, ha, hb⟩ := (sameKey_iff a b).1 h
  rw [Bool.eq_iff_iff, sameKey_iff, sameKey_iff, ha, hb]

@[simp] theorem sameKey_text (s t : String) : (text s).sameKey (.text t) = (s == t) := by
  simp [sameKey, sameAtom, parts?, reading?]

end Value

/-! ## Entries -/

namespace Entries

theorem find?_cons (k v : Value) (es : Entries) (key : Value) :
    find? ((k, v) :: es) key = if k.sameKey key then some v else find? es key := rfl

/-- Keys of one place find the same value. -/
theorem find?_congr {a b : Value} (h : a.sameKey b = true) (es : Entries) :
    es.find? a = es.find? b := by
  induction es with
  | nil => rfl
  | cons e es ih =>
    obtain ⟨k, v⟩ := e
    rw [find?_cons, find?_cons, ih, k.sameKey_comm a, k.sameKey_comm b, Value.sameKey_congr h]

theorem find?_insert (es : Entries) (key v k : Value) :
    (es.insert key v).find? k = if key.sameKey k then some v else es.find? k := by
  induction es with
  | nil => rfl
  | cons e es ih =>
    obtain ⟨k', w⟩ := e
    by_cases hkey : k'.sameKey key = true
    · have hcongr := Value.sameKey_congr hkey k
      simp only [insert, hkey, if_true, find?_cons, hcongr]
      split <;> rfl
    · rw [insert, if_neg hkey, find?_cons, find?_cons, ih]
      by_cases hk : k'.sameKey k = true
      · have hne : key.sameKey k ≠ true := by
          rw [Value.sameKey_comm, ← Value.sameKey_congr hk]
          exact hkey
        rw [if_pos hk, if_neg hne, if_pos hk]
      · rw [if_neg hk, if_neg hk]

theorem get?_put (es : Entries) (key k : String) (v : Value) :
    (es.put key v).get? k = if key = k then some v else es.get? k := by
  simp [get?, put, find?_insert]

theorem insert_of_find?_eq_none {es : Entries} {k : Value} (h : es.find? k = none)
    (v : Value) : es.insert k v = es ++ [(k, v)] := by
  induction es with
  | nil => rfl
  | cons e es ih =>
    rw [find?_cons] at h
    split at h
    · cases h
    · next hk => rw [insert, if_neg hk, ih h, List.cons_append]

theorem find?_eq_none {es : Entries} {key : Value} :
    es.find? key = none ↔ ∀ e ∈ es, ¬ key.sameKey e.1 = true := by
  induction es with
  | nil => exact ⟨fun _ _ he => (nomatch he), fun _ => rfl⟩
  | cons e es ih =>
    rw [find?_cons, List.forall_mem_cons, ← ih, key.sameKey_comm]
    by_cases hk : e.1.sameKey key = true <;> simp [hk]

theorem exists_key_of_find? {es : Entries} {key v : Value} (h : es.find? key = some v) :
    ∃ k, (k, v) ∈ es := by
  induction es with
  | nil => cases h
  | cons e es ih =>
    rw [find?_cons] at h
    split at h
    · cases h
      exact ⟨e.1, List.mem_cons_self⟩
    · obtain ⟨k, hk⟩ := ih h
      exact ⟨k, List.mem_cons_of_mem _ hk⟩

/-- Entries that are not under a key can be left out when it is looked up. -/
theorem find?_filter {p : Value × Value → Bool} {es : Entries} {key : Value}
    (h : ∀ e ∈ es, p e = false → e.1.sameKey key = false) :
    find? (es.filter p) key = es.find? key := by
  induction es with
  | nil => rfl
  | cons e es ih =>
    obtain ⟨k, v⟩ := e
    rw [List.forall_mem_cons] at h
    rw [List.filter_cons, find?_cons, ← ih h.2]
    split
    · rfl
    · next hp => rw [h.1 (by simpa using hp), if_neg Bool.false_ne_true]

/-- No two keys take the same place. -/
def Distinct : Entries → Prop
  | [] => True
  | (k, _) :: rest => find? rest k = none ∧ Distinct rest

theorem distinct_insert {es : Entries} (h : Distinct es) (key v : Value) :
    Distinct (es.insert key v) := by
  induction es with
  | nil => exact ⟨rfl, trivial⟩
  | cons e es ih =>
    obtain ⟨k, w⟩ := e
    rw [insert]
    split
    · exact h
    · next hk =>
      refine ⟨?_, ih h.2⟩
      rw [find?_insert, key.sameKey_comm, if_neg hk, h.1]

theorem distinct_update {es : Entries} (h : Distinct es) (new : Entries) :
    Distinct (es.update new) := by
  induction new generalizing es with
  | nil => exact h
  | cons e new ih => exact ih (distinct_insert h e.1 e.2)

/-- Entries with distinct keys are what they are gathered to. -/
theorem ofList_of_distinct {es : Entries} (h : es.Distinct) : ofList es = es := by
  suffices hupdate : ∀ front : Entries, (∀ e ∈ es, front.find? e.1 = none) →
      front.update es = front ++ es from hupdate [] fun _ _ => rfl
  induction es with
  | nil => exact fun front _ => (List.append_nil front).symm
  | cons e es ih =>
    obtain ⟨k, v⟩ := e
    intro front hfront
    rw [List.forall_mem_cons] at hfront
    have hstep : front.update ((k, v) :: es) = (front.insert k v).update es := rfl
    rw [hstep, ih h.2, insert_of_find?_eq_none hfront.1, List.append_assoc, List.singleton_append]
    intro e he
    rw [find?_insert, if_neg (find?_eq_none.1 h.1 e he), hfront.2 e he]

/-- What was put over other entries is found first. -/
theorem find?_update {new : Entries} (h : Distinct new) (es : Entries) (key : Value) :
    (es.update new).find? key = (new.find? key).or (es.find? key) := by
  induction new generalizing es with
  | nil => rfl
  | cons e new ih =>
    obtain ⟨k, v⟩ := e
    have hstep : es.update ((k, v) :: new) = (es.insert k v).update new := rfl
    rw [hstep, ih h.2, find?_insert, find?_cons]
    by_cases hk : k.sameKey key = true
    · rw [if_pos hk, if_pos hk, ← find?_congr hk, h.1]
      rfl
    · rw [if_neg hk, if_neg hk]

end Entries

/-! ## Values without repeated keys -/

namespace Value

mutual

/-- Whether no object in a value holds a key twice. -/
def isKeyed : Value → Bool
  | .dict es => keyedEntries es
  | .list xs => keyedItems xs
  | .tuple xs => keyedItems xs
  | _ => true

def keyedItems : List Value → Bool
  | [] => true
  | x :: rest => isKeyed x && keyedItems rest

def keyedEntries : List (Value × Value) → Bool
  | [] => true
  | (k, v) :: rest => !Entries.contains rest k && isKeyed v && keyedEntries rest

end

theorem keyedItems_iff {xs : List Value} :
    keyedItems xs = true ↔ ∀ x ∈ xs, x.isKeyed = true := by
  induction xs with
  | nil => simp [keyedItems]
  | cons x xs ih => simp [keyedItems, ih]

theorem keyedEntries_cons {k v : Value} {rest : Entries} :
    keyedEntries ((k, v) :: rest) = true ↔
      rest.find? k = none ∧ v.isKeyed = true ∧ keyedEntries rest = true := by
  simp [keyedEntries, Entries.contains, and_assoc]

theorem distinct_of_keyed {es : Entries} (h : keyedEntries es = true) : es.Distinct := by
  induction es with
  | nil => trivial
  | cons e es ih =>
    obtain ⟨hfresh, -, hes⟩ := keyedEntries_cons.1 h
    exact ⟨hfresh, ih hes⟩

theorem isKeyed_of_mem {es : Entries} (h : keyedEntries es = true) {e : Value × Value}
    (he : e ∈ es) : e.2.isKeyed = true := by
  induction es with
  | nil => cases he
  | cons e' es ih =>
    obtain ⟨-, hv, hes⟩ := keyedEntries_cons.1 h
    rcases List.mem_cons.1 he with rfl | he
    · exact hv
    · exact ih hes he

theorem isKeyed_of_find? {es : Entries} (h : keyedEntries es = true) {k v : Value}
    (hv : es.find? k = some v) : v.isKeyed = true :=
  let ⟨_, he⟩ := Entries.exists_key_of_find? hv
  isKeyed_of_mem h he

theorem keyedEntries_insert {es : Entries} (h : keyedEntries es = true) (key : Value) {v : Value}
    (hv : v.isKeyed = true) : keyedEntries (es.insert key v) = true := by
  induction es with
  | nil => exact keyedEntries_cons.2 ⟨rfl, hv, rfl⟩
  | cons e es ih =>
    obtain ⟨k, w⟩ := e
    obtain ⟨hfresh, hw, hes⟩ := keyedEntries_cons.1 h
    rw [Entries.insert]
    split
    · exact keyedEntries_cons.2 ⟨hfresh, hv, hes⟩
    · next hk =>
      refine keyedEntries_cons.2 ⟨?_, hw, ih hes⟩
      rw [Entries.find?_insert, key.sameKey_comm, if_neg hk, hfresh]

theorem keyedEntries_update {es new : Entries} (h : keyedEntries es = true)
    (hnew : ∀ e ∈ new, e.2.isKeyed = true) : keyedEntries (es.update new) = true := by
  induction new generalizing es with
  | nil => exact h
  | cons e new ih =>
    rw [Entries.update, List.foldl_cons]
    exact ih (keyedEntries_insert h e.1 (hnew e List.mem_cons_self))
      fun e' he' => hnew e' (List.mem_cons_of_mem _ he')

theorem keyedEntries_ofList {es : Entries} (h : ∀ e ∈ es, e.2.isKeyed = true) :
    keyedEntries (Entries.ofList es) = true :=
  keyedEntries_update rfl h

/-! ## Keys that may be keys -/

mutual

/-- Whether the objects in a value hold no key twice, and only keys that may be keys. -/
def isWellKeyed : Value → Bool
  | .dict es => wellKeyedEntries es
  | .list xs => wellKeyedItems xs
  | .tuple xs => wellKeyedItems xs
  | _ => true

def wellKeyedItems : List Value → Bool
  | [] => true
  | x :: rest => isWellKeyed x && wellKeyedItems rest

def wellKeyedEntries : List (Value × Value) → Bool
  | [] => true
  | (k, v) :: rest =>
    k.hashable && !Entries.contains rest k && isWellKeyed v && wellKeyedEntries rest

end

theorem wellKeyedItems_iff {xs : List Value} :
    wellKeyedItems xs = true ↔ ∀ x ∈ xs, x.isWellKeyed = true := by
  induction xs with
  | nil => simp [wellKeyedItems]
  | cons x xs ih => simp [wellKeyedItems, ih]

theorem wellKeyedEntries_cons {k v : Value} {rest : Entries} :
    wellKeyedEntries ((k, v) :: rest) = true ↔
      k.hashable = true ∧ rest.find? k = none ∧ v.isWellKeyed = true ∧
        wellKeyedEntries rest = true := by
  simp [wellKeyedEntries, Entries.contains, and_assoc]

theorem wellKeyed_of_mem {es : Entries} (h : wellKeyedEntries es = true) {e : Value × Value}
    (he : e ∈ es) : e.1.hashable = true ∧ e.2.isWellKeyed = true := by
  induction es with
  | nil => cases he
  | cons e' es ih =>
    obtain ⟨hk, -, hv, hes⟩ := wellKeyedEntries_cons.1 h
    rcases List.mem_cons.1 he with rfl | he
    · exact ⟨hk, hv⟩
    · exact ih hes he

/-- Entries under distinct texts hold no key twice. -/
theorem wellKeyedEntries_texts {es : List (String × Value)} (hnodup : (es.map Prod.fst).Nodup)
    (h : ∀ e ∈ es, e.2.isWellKeyed = true) :
    wellKeyedEntries (es.map fun (k, v) => (.text k, v)) = true := by
  induction es with
  | nil => rfl
  | cons e es ih =>
    obtain ⟨k, v⟩ := e
    rw [List.map_cons, List.nodup_cons] at hnodup
    rw [List.forall_mem_cons] at h
    refine wellKeyedEntries_cons.2 ⟨rfl, Entries.find?_eq_none.2 ?_, h.1, ih hnodup.2 h.2⟩
    refine List.forall_mem_map.2 fun e he hsame => hnodup.1 ?_
    rw [sameKey_text, beq_iff_eq] at hsame
    exact List.mem_map.2 ⟨e, he, hsame.symm⟩

theorem isWellKeyed_of_get? {es : Entries} (h : wellKeyedEntries es = true) {k : String} {v : Value}
    (hv : es.get? k = some v) : v.isWellKeyed = true :=
  let ⟨_, he⟩ := Entries.exists_key_of_find? hv
  (wellKeyed_of_mem h he).2

mutual

/-- What may be a key holds no objects. -/
theorem isWellKeyed_of_hashable : ∀ v : Value, v.hashable = true → v.isWellKeyed = true
  | .list xs, h => by rw [hashable] at h; cases h
  | .dict es, h => by rw [hashable] at h; cases h
  | .tuple xs, h => by
    rw [hashable] at h
    rw [isWellKeyed]
    exact wellKeyedItems_of_hashable xs h
  | .null, _ | .bool _, _ | .int _, _ | .float _, _ | .complex _ _, _ | .text _, _ | .bytes _, _
  | .ellipsis, _ | .foreign _, _ => rfl

theorem wellKeyedItems_of_hashable :
    ∀ xs : List Value, hashable.hashableAll xs = true → wellKeyedItems xs = true
  | [], _ => rfl
  | x :: rest, h => by
    rw [hashable.hashableAll, Bool.and_eq_true] at h
    rw [wellKeyedItems, Bool.and_eq_true]
    exact ⟨isWellKeyed_of_hashable x h.1, wellKeyedItems_of_hashable rest h.2⟩

end

mutual

theorem isKeyed_of_isWellKeyed : ∀ v : Value, v.isWellKeyed = true → v.isKeyed = true
  | .dict es, h => by
    rw [isWellKeyed] at h
    rw [isKeyed]
    exact keyedEntries_of_wellKeyed es h
  | .list xs, h => by
    rw [isWellKeyed] at h
    rw [isKeyed]
    exact keyedItems_of_wellKeyed xs h
  | .tuple xs, h => by
    rw [isWellKeyed] at h
    rw [isKeyed]
    exact keyedItems_of_wellKeyed xs h
  | .null, _ | .bool _, _ | .int _, _ | .float _, _ | .complex _ _, _ | .text _, _ | .bytes _, _
  | .ellipsis, _ | .foreign _, _ => rfl

theorem keyedItems_of_wellKeyed :
    ∀ xs : List Value, wellKeyedItems xs = true → keyedItems xs = true
  | [], _ => rfl
  | x :: rest, h => by
    rw [wellKeyedItems, Bool.and_eq_true] at h
    rw [keyedItems, Bool.and_eq_true]
    exact ⟨isKeyed_of_isWellKeyed x h.1, keyedItems_of_wellKeyed rest h.2⟩

theorem keyedEntries_of_wellKeyed :
    ∀ es : List (Value × Value), wellKeyedEntries es = true → keyedEntries es = true
  | [], _ => rfl
  | (k, v) :: rest, h => by
    obtain ⟨-, hfresh, hv, hrest⟩ := wellKeyedEntries_cons.1 h
    exact keyedEntries_cons.2
      ⟨hfresh, isKeyed_of_isWellKeyed v hv, keyedEntries_of_wellKeyed rest hrest⟩

end

theorem wellKeyedEntries_insert {es : Entries} (h : wellKeyedEntries es = true) {key v : Value}
    (hkey : key.hashable = true) (hv : v.isWellKeyed = true) :
    wellKeyedEntries (es.insert key v) = true := by
  induction es with
  | nil => exact wellKeyedEntries_cons.2 ⟨hkey, rfl, hv, rfl⟩
  | cons e es ih =>
    obtain ⟨k, w⟩ := e
    obtain ⟨hk, hfresh, hw, hes⟩ := wellKeyedEntries_cons.1 h
    rw [Entries.insert]
    split
    · exact wellKeyedEntries_cons.2 ⟨hk, hfresh, hv, hes⟩
    · next hne =>
      refine wellKeyedEntries_cons.2 ⟨hk, ?_, hw, ih hes⟩
      rw [Entries.find?_insert, key.sameKey_comm, if_neg hne, hfresh]

theorem wellKeyedEntries_update {es new : Entries} (h : wellKeyedEntries es = true)
    (hnew : ∀ e ∈ new, e.1.hashable = true ∧ e.2.isWellKeyed = true) :
    wellKeyedEntries (es.update new) = true := by
  induction new generalizing es with
  | nil => exact h
  | cons e new ih =>
    rw [List.forall_mem_cons] at hnew
    rw [Entries.update, List.foldl_cons]
    exact ih (wellKeyedEntries_insert h hnew.1.1 hnew.1.2) hnew.2

end Value

end ApiJourney
