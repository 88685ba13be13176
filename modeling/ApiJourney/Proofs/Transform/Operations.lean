-- SUMMARY: What operators and methods in transforms give holds no key twice.
import ApiJourney.Proofs.Outcome
import ApiJourney.Proofs.Value.Keys
import ApiJourney.Transform.Method
import Mathlib

/-!
# Keys in what operations give

Operators and methods take values apart and put the parts together anew. No object in what they
give holds a key twice, if none in their operands does.
-/

namespace ApiJourney

namespace Transform

open Text Value

/-! ## Parts -/

/-- A located value whose objects have keys that may be keys, each of them once. -/
abbrev Located.WellKeyed (l : Located) : Prop :=
  l.value.isWellKeyed = true

/-- A located value that comes out is well keyed. -/
abbrev Gives (r : Except ε Located) : Prop :=
  Ensures r Located.WellKeyed fun _ => True

/-- A value that comes out is well keyed. -/
abbrev GivesValue (r : Except ε Value) : Prop :=
  Ensures r (fun v => v.isWellKeyed = true) fun _ => True

/-- What is made of any result is well keyed. -/
theorem gives_map {r : Except ε α} {f : α → Located} (h : ∀ a, (f a).WellKeyed) :
    Gives (r.map f) := by
  cases r with
  | ok a => exact h a
  | error e => trivial

namespace Located

variable {o : Origin} {l key : Located} {es : List (Located × Located)}

theorem value_mem_of_mem_partsOf {xs : List Value} (h : l ∈ partsOf o xs) : l.value ∈ xs := by
  rw [partsOf, ← List.map_uncurry_zip_eq_zipWith] at h
  obtain ⟨⟨x, p⟩, hzip, rfl⟩ := List.mem_map.1 h
  exact (List.of_mem_zip hzip).1

theorem partsOf_wellKeyed {xs : List Value} (h : wellKeyedItems xs = true) :
    ∀ l ∈ partsOf o xs, l.WellKeyed :=
  fun _ hl => wellKeyedItems_iff.1 h _ (value_mem_of_mem_partsOf hl)

theorem mem_of_mem_pairs {ls : List Located} {e : Located × Located} (h : e ∈ entriesOf.pairs ls) :
    e.1 ∈ ls ∧ e.2 ∈ ls := by
  fun_induction entriesOf.pairs ls with
  | case1 k v rest ih =>
    rcases List.mem_cons.1 h with rfl | h
    · simp
    · obtain ⟨hk, hv⟩ := ih h
      simp [hk, hv]
  | case2 ls hls => cases h

theorem entriesOf_wellKeyed {fs : Entries} (h : wellKeyedEntries fs = true) :
    ∀ e ∈ entriesOf o fs, e.1.WellKeyed ∧ e.2.WellKeyed := by
  have hall : ∀ l ∈ partsOf o (fs.flatMap fun e => [e.1, e.2]), l.WellKeyed := by
    intro l hl
    obtain ⟨⟨k, v⟩, he, hl⟩ := List.mem_flatMap.1 (value_mem_of_mem_partsOf hl)
    obtain ⟨hk, hv⟩ := wellKeyed_of_mem h he
    simp only [List.mem_cons, List.not_mem_nil, or_false] at hl
    rcases hl with rfl | rfl
    · exact isWellKeyed_of_hashable _ hk
    · exact hv
  intro e he
  obtain ⟨hk, hv⟩ := mem_of_mem_pairs he
  exact ⟨hall _ hk, hall _ hv⟩

theorem find?_wellKeyed (h : ∀ e ∈ es, e.2.WellKeyed) {v : Located} (hv : find? es key = some v) :
    v.WellKeyed := by
  obtain ⟨e, he, rfl⟩ := Option.map_eq_some_iff.1 hv
  exact h e (List.mem_of_find?_eq_some he)

theorem list_wellKeyed {ls : List Located} (h : ∀ l ∈ ls, l.WellKeyed) : (list ls).WellKeyed :=
  wellKeyedItems_iff.2 (List.forall_mem_map.2 h)

theorem tuple_wellKeyed {ls : List Located} (h : ∀ l ∈ ls, l.WellKeyed) : (tuple ls).WellKeyed :=
  wellKeyedItems_iff.2 (List.forall_mem_map.2 h)

theorem written_wellKeyed {v : Value} (h : v.isWellKeyed = true) : (written v).WellKeyed := by
  unfold written
  split <;> exact h

/-! ## Keys that are found -/

theorem length_parts (n : Nat) (o : Origin) : n ≤ (o.parts n).length := by
  cases o with
  | made origins =>
    rw [Origin.parts, List.length_append, List.length_replicate]
    omega
  | _ => simp [Origin.parts]

mutual

/-- Keys that take the same place are equal, wherever they come from. -/
theorem equalAt_of_sameKey : ∀ (o p : Origin) (a b : Value),
    a.sameKey b = true → equalAt o p a b = true
  | o, p, .tuple xs, b, h => by
    cases b with
    | tuple ys =>
      rw [sameKey] at h
      rw [equalAt]
      exact equalItems_of_sameKeys _ _ xs ys h (length_parts _ o) (length_parts _ p)
    | _ => cases h
  | o, p, .list xs, b, h => by cases b <;> cases h
  | o, p, .dict es, b, h => by cases b <;> cases h
  | o, p, .null, b, h | o, p, .bool _, b, h | o, p, .int _, b, h | o, p, .float _, b, h
  | o, p, .complex _ _, b, h | o, p, .text _, b, h | o, p, .bytes _, b, h | o, p, .ellipsis, b, h
  | o, p, .foreign _, b, h => by
    rw [sameKey] at h
    · rwa [equalAt] <;> exact nofun
    · exact nofun

theorem equalItems_of_sameKeys : ∀ (os ps : List Origin) (xs ys : List Value),
    sameKeys xs ys = true → xs.length ≤ os.length → ys.length ≤ ps.length →
      equalItems os (ys.zipWith Located.mk ps) xs = true
  | _, _, [], [], _, _, _ => by simp [equalItems]
  | _, _, [], _ :: _, h, _, _ => by cases h
  | _, _, _ :: _, [], h, _, _ => by cases h
  | [], _, _ :: _, _ :: _, _, ho, _ => by cases ho
  | _ :: _, [], _ :: _, _ :: _, _, _, hp => by cases hp
  | o :: os, p :: ps, x :: xs, y :: ys, h, ho, hp => by
    rw [sameKeys, Bool.and_eq_true] at h
    rw [List.zipWith_cons_cons, equalItems, Bool.and_eq_true, Bool.or_eq_true]
    exact ⟨.inr (equalAt_of_sameKey o p x y h.1), equalItems_of_sameKeys os ps xs ys h.2
      (Nat.le_of_succ_le_succ ho) (Nat.le_of_succ_le_succ hp)⟩

end

theorem isFound_of_sameKey {a b : Located} (h : a.value.sameKey b.value = true) :
    a.isFound b = true := by
  rw [isFound, equal, equalAt_of_sameKey _ _ _ _ h, Bool.or_true]

/-- The entries of an object, without where they come from. -/
def plainEntries (es : List (Located × Located)) : Entries :=
  es.map fun (k, v) => (k.value, v.value)

/-- Another key stays new when an entry is inserted. -/
theorem find?_insert_eq_none {k : Value} (h : (plainEntries es).find? k = none)
    (hkey : key.value.sameKey k = false) (v : Located) :
    (plainEntries (insert key v es)).find? k = none := by
  induction es with
  | nil => simp [insert, plainEntries, Entries.find?, hkey]
  | cons e es ih =>
    obtain ⟨k', w⟩ := e
    simp only [plainEntries, List.map_cons, Entries.find?_cons] at h ih
    split at h
    · cases h
    · next hne =>
      rw [insert]
      split
      · simpa [plainEntries, Entries.find?_cons, hne] using h
      · simpa [plainEntries, Entries.find?_cons, hne] using ih h

theorem insert_wellKeyed (h : wellKeyedEntries (plainEntries es) = true)
    (hkey : key.value.hashable = true) {v : Located} (hv : v.WellKeyed) :
    wellKeyedEntries (plainEntries (insert key v es)) = true := by
  induction es with
  | nil => exact wellKeyedEntries_cons.2 ⟨hkey, rfl, hv, rfl⟩
  | cons e es ih =>
    obtain ⟨k, w⟩ := e
    obtain ⟨hk, hfresh, hw, hes⟩ := wellKeyedEntries_cons.1 h
    rw [insert]
    split
    · exact wellKeyedEntries_cons.2 ⟨hk, hfresh, hv, hes⟩
    · next hfound =>
      have hne : key.value.sameKey k.value = false := by
        rw [sameKey_comm]
        exact Bool.eq_false_iff.2 fun hsame => hfound (isFound_of_sameKey hsame)
      exact wellKeyedEntries_cons.2 ⟨hk, find?_insert_eq_none hfresh hne v, hw, ih hes⟩

end Located

open Located

/-! ## Numbers and sequences -/

section Operators

variable {a b l : Located}

/-- A value that was just made is well keyed if the value is. -/
theorem GivesValue.fresh {r : Except ε Value} (h : GivesValue r) :
    Gives (r.map Located.fresh) :=
  Ensures.map h

theorem onNumbers_gives {op : Pair → Except Fault Value} (h : ∀ p, GivesValue (op p))
    (v w : Value) : GivesValue (onNumbers op v w) := by
  unfold onNumbers
  split
  · exact .andThen fun p => h p
  · trivial

theorem addNumbers_gives (p : Pair) : GivesValue (addNumbers p) := by
  cases p <;> rfl

theorem subNumbers_gives (p : Pair) : GivesValue (subNumbers p) := by
  cases p <;> rfl

theorem mulNumbers_gives (p : Pair) : GivesValue (mulNumbers p) := by
  cases p <;> rfl

theorem complexDiv_gives (x y : Float × Float) : GivesValue (complexDiv x y) := by
  unfold complexDiv
  dsimp only
  split_ifs <;> trivial

theorem divNumbers_gives (p : Pair) : GivesValue (divNumbers p) := by
  unfold divNumbers
  split
  · split_ifs
    · trivial
    · split <;> trivial
  · split_ifs <;> trivial
  · exact complexDiv_gives _ _

theorem floorDivNumbers_gives (p : Pair) : GivesValue (floorDivNumbers p) := by
  unfold floorDivNumbers
  split
  · split_ifs <;> trivial
  · split_ifs <;> trivial
  · trivial

theorem modNumbers_gives (p : Pair) : GivesValue (modNumbers p) := by
  unfold modNumbers
  split
  · split_ifs <;> trivial
  · split_ifs <;> trivial
  · trivial

theorem negate_gives (v : Value) : GivesValue (negate v) := by
  unfold negate
  split <;> trivial

/-- All items of a sequence are well keyed. -/
def Sequence.WellKeyed : Sequence → Prop
  | .list ls | .tuple ls => ∀ l ∈ ls, l.WellKeyed
  | _ => True

theorem sequence?_wellKeyed (h : l.WellKeyed) {s : Sequence} (hs : sequence? l = some s) :
    s.WellKeyed := by
  obtain ⟨v, o⟩ := l
  cases v with
  | list xs => cases hs; exact partsOf_wellKeyed h
  | tuple xs => cases hs; exact partsOf_wellKeyed h
  | text s => cases hs; trivial
  | bytes bs => cases hs; trivial
  | _ => cases hs

theorem Sequence.located_wellKeyed {s : Sequence} (h : s.WellKeyed) : s.located.WellKeyed := by
  cases s with
  | list ls => exact list_wellKeyed h
  | tuple ls => exact tuple_wellKeyed h
  | _ => rfl

theorem Sequence.mapItems_wellKeyed {s : Sequence} (h : s.WellKeyed)
    {f : {α : Type} → List α → List α} (hf : ∀ {α : Type} (xs : List α), ∀ x ∈ f xs, x ∈ xs) :
    (s.mapItems f).WellKeyed := by
  cases s with
  | list ls => exact fun l hl => h l (hf ls l hl)
  | tuple ls => exact fun l hl => h l (hf ls l hl)
  | _ => trivial

theorem Sequence.item?_wellKeyed {s : Sequence} (h : s.WellKeyed) {i : Nat}
    (hl : s.item? i = some l) : l.WellKeyed := by
  cases s with
  | list ls => exact h l (List.mem_of_getElem? hl)
  | tuple ls => exact h l (List.mem_of_getElem? hl)
  | text cs => obtain ⟨c, -, rfl⟩ := Option.map_eq_some_iff.1 hl; rfl
  | bytes bs => obtain ⟨c, -, rfl⟩ := Option.map_eq_some_iff.1 hl; rfl

theorem subscript_gives (h : a.WellKeyed) (index : Located) : Gives (subscript a index) := by
  obtain ⟨v, o⟩ := a
  unfold subscript
  split
  · next es hes =>
    cases hes
    split_ifs
    · trivial
    · split
      · next w hw => exact find?_wellKeyed (fun e he => (entriesOf_wellKeyed h e he).2) hw
      · trivial
  · split
    · next s hs =>
      unfold indexed
      split
      · trivial
      · dsimp only
        split
        · next w hw =>
          split_ifs at hw <;>
            exact Sequence.item?_wellKeyed (sequence?_wellKeyed h hs) hw
        · trivial
    · trivial

theorem mem_of_mem_sliceItems (start stop : Option Int) (step : Int) (xs : List α) :
    ∀ x ∈ sliceItems xs start stop step, x ∈ xs := by
  intro x hx
  obtain ⟨i, -, hi⟩ := List.mem_filterMap.1 hx
  exact List.mem_of_getElem? (by simpa using hi)

theorem cut_gives (h : a.WellKeyed) (start stop step : Value) : Gives (cut a start stop step) := by
  unfold cut
  split
  · trivial
  · next s hs =>
    have hs := sequence?_wellKeyed h hs
    refine .andThen fun step => ?_
    split_ifs
    · trivial
    refine .andThen fun start => .andThen fun stop => ?_
    have hslice := Sequence.located_wellKeyed (Sequence.mapItems_wellKeyed hs
      (mem_of_mem_sliceItems start stop (step.getD 1)))
    dsimp only
    split_ifs
    · exact h
    · exact hslice
    · split
      · exact written_wellKeyed hslice
      · exact written_wellKeyed hslice
      · exact hslice
      · exact hslice

theorem mem_of_mem_repeated {n : Nat} (xs : List α) : ∀ x ∈ repeated xs n, x ∈ xs := by
  intro x hx
  obtain ⟨ys, hys, hx⟩ := List.mem_flatten.1 hx
  exact List.eq_of_mem_replicate hys ▸ hx

theorem repeatSequence_gives (h : a.WellKeyed) {s : Sequence} (hs : s.WellKeyed) (count : Int) :
    Gives (repeatSequence a s count) := by
  have hall : (if s.length = 0 then s
      else s.mapItems fun xs => repeated xs count.toNat).WellKeyed := by
    split_ifs
    · exact hs
    · exact Sequence.mapItems_wellKeyed hs mem_of_mem_repeated
  unfold repeatSequence
  refine .ite trivial (.ite trivial (.ite trivial (.ite h ?_)))
  dsimp only
  split
  · rfl
  · exact Sequence.located_wellKeyed hall

theorem mulValues_gives (ha : a.WellKeyed) (hb : b.WellKeyed) : Gives (mulValues a b) := by
  unfold mulValues
  split
  · next s _ hs _ =>
    split
    · exact repeatSequence_gives ha (sequence?_wellKeyed ha hs) _
    · trivial
  · next s _ hs =>
    split
    · exact repeatSequence_gives hb (sequence?_wellKeyed hb hs) _
    · trivial
  · trivial
  · exact (onNumbers_gives mulNumbers_gives _ _).fresh

theorem addSequences_gives {s t : Sequence} (hs : s.WellKeyed) (ht : t.WellKeyed) :
    Gives (addSequences s t) := by
  unfold addSequences
  split
  · rfl
  · rfl
  · exact list_wellKeyed (List.forall_mem_append.2 ⟨hs, ht⟩)
  · exact tuple_wellKeyed (List.forall_mem_append.2 ⟨hs, ht⟩)
  · trivial

theorem addValues_gives (ha : a.WellKeyed) (hb : b.WellKeyed) : Gives (addValues a b) := by
  unfold addValues
  split
  · next s t hs ht =>
    refine (addSequences_gives (sequence?_wellKeyed ha hs) (sequence?_wellKeyed hb ht)).bind
      fun sum hsum => ?_
    split_ifs
    · exact hb
    · exact ha
    · exact hsum
  · exact (onNumbers_gives addNumbers_gives _ _).fresh

end Operators

/-! ## Methods -/

section Methods

variable {target l : Located} {cs : List Char} {name : String} {args : List Located}
  {kws : Keywords Located}

theorem texts_wellKeyed (pieces : List (List Char)) :
    (Value.list (pieces.map textValue)).isWellKeyed = true :=
  wellKeyedItems_iff.2 (List.forall_mem_map.2 fun _ _ => rfl)

theorem noArgs_gives {v : Value} (h : v.isWellKeyed = true) (vs : List Value) :
    GivesValue (noArgs vs v) := by
  unfold noArgs
  split_ifs
  · exact h
  · trivial

theorem stripped_gives (trimBlank : List Char → List Char)
    (trimBy : (Char → Bool) → List Char → List Char) (vs : List Value) :
    GivesValue (stripped trimBlank trimBy cs vs) := by
  unfold stripped
  split <;> trivial

theorem splitText_gives (byWords : Option Nat → List Char → List (List Char))
    (bySep : List Char → Option Nat → List Char → List (List Char)) (vs : List Value)
    (ks : Keywords Value) : GivesValue (splitText byWords bySep cs vs ks) := by
  unfold splitText
  refine .andThen fun given => .andThen fun limit => ?_
  split
  · exact texts_wellKeyed _
  · split_ifs
    · trivial
    · exact texts_wellKeyed _
  · trivial

theorem replaceText_gives (vs : List Value) : GivesValue (replaceText cs vs) := by
  unfold replaceText
  split
  · exact .andThen fun _ => .andThen fun _ => rfl
  · exact .andThen fun _ => .andThen fun _ =>
      .andThen fun _ => rfl
  · trivial

theorem endTest_gives (test : List Char → List Char → Bool) (vs : List Value) :
    GivesValue (endTest test cs vs) := by
  unfold endTest
  split
  · trivial
  · refine .andThen fun span => ?_
    dsimp only
    split
    · rfl
    · exact ((Ensures.vacuous _).imp_ok (fun _ _ => rfl)).map
    · trivial

theorem joinText_gives (vs : List Value) : GivesValue (joinText cs vs) := by
  unfold joinText
  split
  · exact .andThen fun _ => .andThen fun _ => rfl
  · trivial

theorem searchText_gives (search : List Char → Option (Nat × List Char) → Int) (vs : List Value) :
    GivesValue (searchText search cs vs) := by
  unfold searchText
  split
  · trivial
  · exact .andThen fun _ => .andThen fun _ => rfl

theorem zeroFilled_gives (vs : List Value) : GivesValue (zeroFilled cs vs) := by
  unfold zeroFilled
  split
  · exact ((Ensures.vacuous _).imp_ok (fun _ _ => rfl)).map
  · trivial

/-- Texts have methods that give texts, numbers, truth values and lists of texts. -/
theorem textMethod_gives (name : String) (vs : List Value) (ks : Keywords Value) :
    GivesValue (textMethod cs name vs ks) := by
  unfold textMethod
  refine .ite (splitText_gives _ _ vs ks) (.ite (splitText_gives _ _ vs ks) (.ite trivial ?_))
  refine .ite (noArgs_gives rfl vs) (.ite (noArgs_gives rfl vs) ?_)
  refine .ite (noArgs_gives rfl vs) (.ite (noArgs_gives rfl vs) ?_)
  refine .ite (stripped_gives _ _ vs) (.ite (stripped_gives _ _ vs) ?_)
  refine .ite (stripped_gives _ _ vs) (.ite (replaceText_gives vs) ?_)
  refine .ite (endTest_gives _ vs) (.ite (endTest_gives _ vs) ?_)
  refine .ite (joinText_gives vs) (.ite (searchText_gives _ vs) ?_)
  refine .ite (searchText_gives _ vs) (.ite (zeroFilled_gives vs) ?_)
  exact .ite (noArgs_gives rfl vs) (.ite (noArgs_gives rfl vs) (.ite (noArgs_gives rfl vs) trivial))

theorem iterate_gives (h : l.WellKeyed) :
    Ensures l.iterate (fun ls => ∀ l ∈ ls, l.WellKeyed) fun _ => True := by
  obtain ⟨v, o⟩ := l
  unfold Located.iterate
  cases v with
  | list xs => exact partsOf_wellKeyed h
  | tuple xs => exact partsOf_wellKeyed h
  | dict es => exact List.forall_mem_map.2 fun e he => (entriesOf_wellKeyed h e he).1
  | text s => exact List.forall_mem_map.2 (List.forall_mem_map.2 fun _ _ => rfl)
  | bytes bs => exact List.forall_mem_map.2 (List.forall_mem_map.2 fun _ _ => rfl)
  | _ => trivial

theorem single?_wellKeyed (h : l.WellKeyed) {item : Located} (hitem : single? l = some item) :
    item.WellKeyed := by
  unfold single? at hitem
  split at hitem
  · next item' hl =>
    cases hitem
    exact (iterate_gives h).of_ok hl _ (List.mem_singleton_self _)
  · cases hitem

theorem placeText_wellKeyed (htarget : target.WellKeyed) (hargs : ∀ l ∈ args, l.WellKeyed)
    {v : Value} (hv : v.isWellKeyed = true) :
    (placeText target cs name args kws v).WellKeyed := by
  have hwritten := written_wellKeyed hv
  unfold placeText
  dsimp only
  split_ifs
  · exact htarget
  · exact hv
  · exact htarget
  · exact hwritten
  · exact htarget
  · exact hwritten
  · cases hitem : args.head?.bind single? with
    | none => exact hwritten
    | some item =>
      obtain ⟨l, hl, hsingle⟩ := Option.bind_eq_some_iff.1 hitem
      exact single?_wellKeyed (hargs l (List.mem_of_mem_head? hl)) hsingle
  · exact hwritten
  · split
    · split_ifs
      · exact list_wellKeyed (List.forall_mem_singleton.2 htarget)
      · exact hv
    · exact hv
  · exact hv

theorem positionOf_gives (ls : List Located) (l : Located) (start stop : Int) :
    GivesValue (positionOf ls l start stop) := by
  unfold positionOf
  split
  · trivial
  · split <;> trivial

theorem listMethod_gives (ls : List Located) (name : String) (args : List Located) :
    GivesValue (listMethod ls name args) := by
  unfold listMethod
  split
  · exact positionOf_gives _ _ _ _
  · exact .andThen fun _ => positionOf_gives _ _ _ _
  · exact .andThen fun _ => .andThen fun _ =>
      positionOf_gives _ _ _ _
  · rfl
  · trivial

theorem getEntry_gives {es : List (Located × Located)} (hes : ∀ e ∈ es, e.2.WellKeyed)
    (key : Located) {default : Located} (hdefault : default.WellKeyed) :
    Gives (getEntry es key default) := by
  unfold getEntry
  split_ifs
  · cases hv : Located.find? es key with
    | none => exact hdefault
    | some v => exact find?_wellKeyed hes hv
  · trivial

/-- What an object is asked for are its keys and its values, or the default. -/
theorem dictMethod_gives {es : List (Located × Located)}
    (hes : ∀ e ∈ es, e.1.WellKeyed ∧ e.2.WellKeyed) (name : String)
    (hargs : ∀ l ∈ args, l.WellKeyed) : Gives (dictMethod es name args) := by
  have hvalues : ∀ e ∈ es, e.2.WellKeyed := fun e he => (hes e he).2
  unfold dictMethod
  split_ifs
  · split
    · exact getEntry_gives hvalues _ rfl
    · exact getEntry_gives hvalues _ (hargs _ (by simp))
    · trivial
  · trivial
  · exact list_wellKeyed (List.forall_mem_map.2 fun e he => (hes e he).1)
  · exact list_wellKeyed (List.forall_mem_map.2 hvalues)
  · refine list_wellKeyed (List.forall_mem_map.2 fun e he => tuple_wellKeyed ?_)
    simpa using hes e he

theorem methodResult_gives (htarget : target.WellKeyed) (hargs : ∀ l ∈ args, l.WellKeyed) :
    Gives (methodResult target name args kws) := by
  obtain ⟨v, o⟩ := target
  unfold methodResult
  cases v with
  | text s =>
    exact ((textMethod_gives name _ _).imp
      (fun _ hv => placeText_wellKeyed htarget hargs hv) fun _ h => h).map
  | list xs =>
    dsimp only
    split_ifs
    · exact (listMethod_gives _ _ _).fresh
    · trivial
  | dict es =>
    dsimp only
    split_ifs
    · exact dictMethod_gives (entriesOf_wellKeyed htarget) name hargs
    · trivial
  | _ => trivial

theorem callMethod_gives (htarget : target.WellKeyed) (hargs : ∀ l ∈ args, l.WellKeyed) :
    Gives (callMethod target name args kws) := by
  unfold callMethod
  split_ifs
  · trivial
  · refine .andThen fun _ => ?_
    refine (Ensures.mapError (methodResult_gives htarget hargs)).bind fun result hresult => ?_
    split_ifs
    · trivial
    · exact hresult

end Methods

end Transform

end ApiJourney
