-- SUMMARY: What transforms build is within the size limit, but for what passes by the checks.
import ApiJourney.Proofs.Transform.Filling
import ApiJourney.Transform.Evaluation
import Mathlib

/-!
# Sizes of what transforms build

Repetition, percent templates and the methods that make texts longer are checked, each in its own
way. Lists, tuples and texts are not repeated beyond the limit, and no method makes a text longer
than that. Byte strings are neither counted when they are repeated nor when they are filled, and
the check of a template bounds each width but neither what is padded to it nor the text as a whole.
What outgrows the limit is told exactly by the pieces that the template is filled to.
-/

namespace ApiJourney.Transform

open Text

/-- How many characters, bytes or items a value is made of. -/
def itemCount : Value → Nat
  | .text s => s.length
  | .bytes bs => bs.length
  | .list xs => xs.length
  | .tuple xs => xs.length
  | _ => 0

theorem itemCount_textValue (cs : List Char) : itemCount (textValue cs) = cs.length := by
  rw [textValue, itemCount, ← String.length_toList, String.toList_ofList]

/-! ## Repetition -/

theorem length_le_parts (o : Origin) (n : Nat) : n ≤ (o.parts n).length := by
  unfold Origin.parts
  split <;> simp
  omega

theorem length_partsOf (o : Origin) (xs : List Value) :
    (Located.partsOf o xs).length = xs.length := by
  rw [Located.partsOf, List.length_zipWith, Nat.min_eq_left (length_le_parts o _)]

theorem itemCount_of_sequence? {l : Located} {s : Sequence} (h : sequence? l = some s) :
    itemCount l.value = s.length := by
  unfold sequence? at h
  split at h
  · next t ht =>
    cases h
    rw [ht, itemCount, Sequence.length, String.length_toList]
  · next bs hbs =>
    cases h
    rw [hbs, itemCount, Sequence.length]
  · next xs hxs =>
    cases h
    rw [hxs, itemCount, Sequence.length, length_partsOf]
  · next xs hxs =>
    cases h
    rw [hxs, itemCount, Sequence.length, length_partsOf]
  · cases h

theorem itemCount_located (s : Sequence) : itemCount s.located.value = s.length := by
  cases s with
  | text cs => exact itemCount_textValue cs
  | bytes bs => rfl
  | list xs => exact List.length_map _
  | tuple xs => exact List.length_map _

theorem length_repeated (xs : List α) (n : Nat) : (repeated xs n).length = xs.length * n := by
  rw [repeated, List.length_flatten, List.map_replicate, List.sum_replicate_nat, Nat.mul_comm]

theorem length_mapItems {s : Sequence} {f : {α : Type} → List α → List α} {n : Nat}
    (h : ∀ {α : Type} (xs : List α), (f xs).length = xs.length * n) :
    (s.mapItems f).length = s.length * n := by
  cases s <;> exact h _

/-- A copy of a byte string, or any other sequence as it is, has the items of the sequence. -/
theorem itemCount_copied {all : Sequence} {v : Located}
    (h : (match all with
      | .bytes bs => .ok ⟨.bytes bs, .copy⟩
      | all => .ok all.located : Except Fault Located) = .ok v) :
    itemCount v.value = all.length := by
  cases all with
  | bytes bs =>
    cases h
    rfl
  | _ =>
    cases h
    exact itemCount_located _

/-- A repeated sequence has its items as often as it is repeated. -/
theorem itemCount_repeatSequence {target v : Located} {s : Sequence} {count : Int}
    (hs : sequence? target = some s) (h : repeatSequence target s count = .ok v) :
    itemCount v.value = s.length * count.toNat := by
  unfold repeatSequence at h
  split_ifs at h with _ _ _ hkept hempty
  · cases h
    rw [itemCount_of_sequence? hs]
    simp only [Bool.and_eq_true, Bool.or_eq_true, decide_eq_true_eq] at hkept
    rcases hkept.2 with hempty | rfl
    · rw [hempty, Nat.zero_mul]
    · exact (Nat.mul_one _).symm
  · rw [itemCount_copied h, hempty, Nat.zero_mul]
  · exact (itemCount_copied h).trans (length_mapItems fun xs => length_repeated xs _)

theorem bytes_of_sequence? {l : Located} {bs : List UInt8} (h : sequence? l = some (.bytes bs)) :
    l.value = .bytes bs := by
  unfold sequence? at h
  split at h
  · cases h
  · next hbs =>
    cases h
    exact hbs
  · cases h
  · cases h
  · cases h

/-- What is made of a byte string by repetition is one. -/
theorem bytes_of_repeatSequence {target v : Located} {bs : List UInt8} {count : Int}
    (hs : sequence? target = some (.bytes bs))
    (h : repeatSequence target (.bytes bs) count = .ok v) :
    ∃ all, v.value = .bytes all := by
  unfold repeatSequence at h
  split_ifs at h
  · cases h
    exact ⟨bs, bytes_of_sequence? hs⟩
  · cases h
    exact ⟨bs, rfl⟩
  · cases h
    exact ⟨_, rfl⟩

/-- Only byte strings are not counted before they are repeated. -/
theorem length_mul_le_of_checkRepetition {l : Located} {s : Sequence} {count : Value} {n : Int}
    (hs : sequence? l = some s) (hcount : count.int? = some n)
    (h : checkRepetition l.value count = .ok ()) :
    (∃ bs, s = .bytes bs) ∨ s.length * n.toNat ≤ maxItems := by
  -- The check counts with integers and takes a negative count as zero.
  have hle : ∀ k : Nat, (if (maxItems : Int) < k * max n 0 then .error .repetition else .ok () :
      Except Error Unit) = .ok () → k * n.toNat ≤ maxItems := by
    intro k hk
    split_ifs at hk with hlarge
    rw [← Int.toNat_eq_max, ← Int.natCast_mul, Int.ofNat_lt, not_lt] at hlarge
    exact hlarge
  unfold checkRepetition at h
  rw [hcount] at h
  unfold sequence? at hs
  split at hs
  · next t ht =>
    cases hs
    rw [ht] at h
    rw [Sequence.length, String.length_toList]
    exact .inr (hle _ h)
  · cases hs
    exact .inl ⟨_, rfl⟩
  · next xs hxs =>
    cases hs
    rw [hxs] at h
    rw [Sequence.length, length_partsOf]
    exact .inr (hle _ h)
  · next xs hxs =>
    cases hs
    rw [hxs] at h
    rw [Sequence.length, length_partsOf]
    exact .inr (hle _ h)
  · cases hs

/-- What a repetition makes is within the limit, or many copies of a byte string. -/
theorem size_of_repeatSequence {l v : Located} {s : Sequence} {count : Value} {n : Int}
    (hs : sequence? l = some s) (hcount : count.int? = some n)
    (hcheck : checkRepetition l.value count = .ok ()) (h : repeatSequence l s n = .ok v) :
    itemCount v.value ≤ maxItems ∨ ∃ bs all, l.value = .bytes bs ∧ v.value = .bytes all ∧
      all.length = bs.length * n.toNat := by
  have hcount := itemCount_repeatSequence hs h
  rcases length_mul_le_of_checkRepetition hs ‹_› hcheck with ⟨bs, rfl⟩ | hle
  · obtain ⟨all, hall⟩ := bytes_of_repeatSequence hs h
    rw [hall] at hcount
    exact .inr ⟨bs, all, bytes_of_sequence? hs, hall, hcount⟩
  · exact .inl (hcount.trans_le hle)

theorem itemCount_onNumbers {op : Pair → Except Fault Value}
    (hop : ∀ p v, op p = .ok v → itemCount v = 0) {a b v : Value} (h : onNumbers op a b = .ok v) :
    itemCount v = 0 := by
  unfold onNumbers at h
  split at h
  · obtain ⟨p, -, h⟩ := bind_eq_ok.1 h
    exact hop p v h
  · cases h

theorem itemCount_mulNumbers (p : Pair) (v : Value) (h : mulNumbers p = .ok v) :
    itemCount v = 0 := by
  cases p <;> cases h <;> rfl

theorem itemCount_modNumbers (p : Pair) (v : Value) (h : modNumbers p = .ok v) :
    itemCount v = 0 := by
  unfold modNumbers at h
  split at h
  · split_ifs at h
    cases h
    rfl
  · split_ifs at h
    cases h
    rfl
  · cases h

/-- One of two values is a byte string, and the other one says how often it is repeated. -/
def RepeatsBytes (a b : Value) (bs : List UInt8) (n : Int) : Prop :=
  a = .bytes bs ∧ b.int? = some n ∨ b = .bytes bs ∧ a.int? = some n

/-- A product is within the limit, or many copies of a byte string. -/
theorem size_of_product {a b v : Located} (h : applyBinary .mul a b = .ok v) :
    itemCount v.value ≤ maxItems ∨ ∃ bs n all, RepeatsBytes a.value b.value bs n ∧
      v.value = .bytes all ∧ all.length = bs.length * n.toNat := by
  obtain ⟨_, hfirst, h⟩ := bind_eq_ok.1 h
  obtain ⟨_, hsecond, h⟩ := bind_eq_ok.1 h
  replace h := mapError_eq_ok.1 h
  unfold mulValues at h
  split at h
  · next s hs _ =>
    split at h
    · next n hn =>
      refine (size_of_repeatSequence hs hn hfirst h).imp_right ?_
      rintro ⟨bs, all, hbs, hall, hlength⟩
      exact ⟨bs, n, all, .inl ⟨hbs, hn⟩, hall, hlength⟩
    · cases h
  · next s _ hs =>
    split at h
    · next n hn =>
      refine (size_of_repeatSequence hs hn hsecond h).imp_right ?_
      rintro ⟨bs, all, hbs, hall, hlength⟩
      exact ⟨bs, n, all, .inr ⟨hbs, hn⟩, hall, hlength⟩
    · cases h
  · cases h
  · obtain ⟨product, hproduct, rfl⟩ := map_eq_ok.1 h
    exact .inl ((itemCount_onNumbers itemCount_mulNumbers hproduct).trans_le (Nat.zero_le _))

/-! ## Items that are iterated -/

theorem map_value_partsOf (o : Origin) (xs : List Value) :
    (Located.partsOf o xs).map Located.value = xs := by
  have hzip : ∀ (xs : List Value) (os : List Origin), xs.length ≤ os.length →
      (xs.zipWith Located.mk os).map Located.value = xs := by
    intro xs
    induction xs with
    | nil => exact fun _ _ => rfl
    | cons x xs ih =>
      intro os hos
      cases os with
      | nil => exact absurd hos (Nat.not_succ_le_zero _)
      | cons o os =>
        rw [List.zipWith_cons_cons, List.map_cons, ih os (Nat.le_of_succ_le_succ hos)]
  exact hzip xs _ (length_le_parts o xs.length)

/-- Values that alternate between keys and what they stand for are entries again. -/
theorem map_key_pairs {es : Entries} {ls : List Located}
    (h : ls.map Located.value = es.flatMap fun (k, v) => [k, v]) :
    (Located.entriesOf.pairs ls).map (fun e => e.1.value) = es.map Prod.fst := by
  induction es generalizing ls with
  | nil =>
    rw [List.map_eq_nil_iff.1 h]
    rfl
  | cons e es ih =>
    rw [List.flatMap_cons] at h
    obtain ⟨k, ls, rfl, hk, hls⟩ := List.map_eq_cons_iff.1 h
    obtain ⟨v, ls, rfl, -, hls⟩ := List.map_eq_cons_iff.1 hls
    rw [Located.entriesOf.pairs, List.map_cons, List.map_cons, ih hls, hk]

theorem map_key_entriesOf (o : Origin) (es : Entries) :
    (Located.entriesOf o es).map (fun e => e.1.value) = es.map Prod.fst :=
  map_key_pairs (map_value_partsOf o _)

/-- Located items are those of the value. -/
theorem iterate_value {l : Located} {ls : List Located} (h : l.iterate = .ok ls) :
    l.value.iterate = .ok (ls.map Located.value) := by
  unfold Located.iterate at h
  split at h
  · next xs hxs =>
    cases h
    rw [hxs, map_value_partsOf]
    rfl
  · next xs hxs =>
    cases h
    rw [hxs, map_value_partsOf]
    rfl
  · next es hes =>
    cases h
    rw [hes, List.map_map]
    exact congrArg _ (map_key_entriesOf l.origin es).symm
  · obtain ⟨xs, hxs, rfl⟩ := map_eq_ok.1 h
    rw [hxs, List.map_map]
    exact congrArg _ (List.map_id xs).symm

theorem iterate_single? {l item : Located} (h : single? l = some item) :
    l.value.iterate = .ok [item.value] := by
  unfold single? at h
  split at h
  · next item' hitems =>
    cases h
    exact iterate_value hitems
  · cases h

/-! ## Methods -/

theorem written_value (v : Value) : (Located.written v).value = v := by
  unfold Located.written
  split_ifs <;> rfl

/-- Joined items are texts. -/
theorem text_of_joinTexts {sep : List Char} {items : List Value} {v : Value}
    (h : joinTexts sep items = .ok v) : ∀ item ∈ items, ∃ s, item = .text s := by
  obtain ⟨parts, hparts, -⟩ := bind_eq_ok.1 h
  intro item hitem
  obtain ⟨part, -, hpart⟩ := exists_of_mapM hparts hitem
  unfold textArg at hpart
  split at hpart
  · next s => exact ⟨s, rfl⟩
  · cases hpart

/-- The methods that make texts longer. -/
def growingMethods : List String := ["zfill", "replace", "join"]

theorem zeroFilled_isText {cs : List Char} {args : List Value} {v : Value}
    (h : zeroFilled cs args = .ok v) : ∃ out, v = textValue out := by
  unfold zeroFilled at h
  split at h
  · obtain ⟨n, -, rfl⟩ := map_eq_ok.1 h
    exact ⟨_, rfl⟩
  · cases h

theorem replaceText_isText {cs : List Char} {args : List Value} {v : Value}
    (h : replaceText cs args = .ok v) : ∃ out, v = textValue out := by
  unfold replaceText at h
  split at h
  · obtain ⟨old, -, h⟩ := bind_eq_ok.1 h
    obtain ⟨new, -, h⟩ := bind_eq_ok.1 h
    cases h
    exact ⟨_, rfl⟩
  · obtain ⟨old, -, h⟩ := bind_eq_ok.1 h
    obtain ⟨new, -, h⟩ := bind_eq_ok.1 h
    obtain ⟨limit, -, h⟩ := bind_eq_ok.1 h
    cases h
    exact ⟨_, rfl⟩
  · cases h

theorem joinText_eq_ok {cs : List Char} {args : List Value} {v : Value}
    (h : joinText cs args = .ok v) :
    ∃ all items, args = [all] ∧ all.iterate = .ok items ∧ joinTexts cs items = .ok v := by
  unfold joinText at h
  split at h
  · next all =>
    obtain ⟨items, hitems, h⟩ := bind_eq_ok.1 h
    exact ⟨all, items, rfl, hitems, h⟩
  · cases h

theorem joinTexts_isText {cs : List Char} {items : List Value} {v : Value}
    (h : joinTexts cs items = .ok v) : ∃ out, v = textValue out := by
  obtain ⟨parts, -, h⟩ := bind_eq_ok.1 h
  cases h
  exact ⟨_, rfl⟩

/-- What such a method makes of a text is a text, also where it was there before. -/
theorem text_of_methodResult {target v : Located} {name : String} {args : List Located}
    {kws : Keywords Located} {s : String} (htarget : target.value = .text s)
    (hname : name ∈ growingMethods) (h : methodResult target name args kws = .ok v) :
    ∃ out, v.value = .text out := by
  -- A method that changes nothing answers with its receiver, otherwise with a new text.
  have hplaced : ∀ (b : Bool) (result : Value), (∃ out, result = textValue out) →
      ∃ out, (if b then target else Located.written result).value = .text out := by
    rintro b _ ⟨out, rfl⟩
    cases b with
    | true => exact ⟨s, htarget⟩
    | false => exact ⟨_, written_value _⟩
  unfold methodResult at h
  rw [htarget] at h
  obtain ⟨result, hresult, rfl⟩ := map_eq_ok.1 h
  simp only [growingMethods, List.mem_cons, List.not_mem_nil, or_false] at hname
  rcases hname with rfl | rfl | rfl
  all_goals
    unfold textMethod at hresult
    simp only [String.reduceBEq, Bool.false_eq_true, if_false, if_true] at hresult
    split_ifs at hresult
  · exact hplaced _ _ (zeroFilled_isText hresult)
  · exact hplaced _ _ (replaceText_isText hresult)
  · obtain ⟨all, items, hall, hitems, hjoined⟩ := joinText_eq_ok hresult
    obtain ⟨l, rfl, rfl⟩ := List.map_eq_singleton_iff.1 hall
    change ∃ out, ((single? l).getD (.written result)).value = .text out
    cases hsingle : single? l with
    | none =>
      obtain ⟨out, rfl⟩ := joinTexts_isText hjoined
      exact ⟨_, written_value _⟩
    | some item =>
      rw [iterate_single? hsingle] at hitems
      cases hitems
      exact text_of_joinTexts hjoined item.value List.mem_cons_self

theorem text_of_methodsOf {v : Value} {name : String} (hname : name ∈ growingMethods)
    (h : (methodsOf v).contains name = true) : ∃ s, v = .text s := by
  have hother : ∀ n ∈ growingMethods,
      listMethods.contains n = false ∧ dictMethods.contains n = false := by decide
  unfold methodsOf at h
  split at h
  · next s => exact ⟨s, rfl⟩
  · rw [(hother name hname).1] at h
    cases h
  · rw [(hother name hname).2] at h
    cases h
  · cases h

/-- What such a method makes is within the limit. -/
theorem size_of_method {target v : Located} {name : String} {args : List Located}
    {kws : Keywords Located} (hname : name ∈ growingMethods)
    (h : callMethod target name args kws = .ok v) : itemCount v.value ≤ maxItems := by
  unfold callMethod at h
  split_ifs at h with hallowed
  obtain ⟨_, -, h⟩ := bind_eq_ok.1 h
  obtain ⟨result, hresult, h⟩ := bind_eq_ok.1 h
  split_ifs at h with hlarge
  cases h
  obtain ⟨s, hs⟩ := text_of_methodsOf hname (by simpa using hallowed)
  obtain ⟨out, hout⟩ := text_of_methodResult hs hname (mapError_eq_ok.1 hresult)
  rw [hout] at hlarge ⊢
  exact Nat.le_of_not_lt hlarge

/-! ## Templates -/

theorem convert_bare (v : Value) :
    convert .text {} 's' v = (shownText v).map fun body => (body, false) := by
  change (do let body ← shownText v; .ok (body.take body.length, false)) = _
  cases shownText v with
  | error f => rfl
  | ok body => exact congrArg (fun shown => Except.ok (shown, false)) List.take_length

theorem fill_bare (body : List Char) : ({} : Place).fill 's' body false = body := by
  simp [Place.fill]

theorem pieceAt_bare (args : Value) (supply : Supply) :
    pieceAt .text args supply ['s'] = (do
      let (v, supply) ← supply.next
      let (body, signed) ← convert .text {} 's' v
      .ok (.converted {} 's' body signed, supply, [])) :=
  rfl

/-- A template that is only a bare place is filled to the shown text of the value. -/
theorem fillTemplate_bare {args : Value} {filled : List Char}
    (h : fillTemplate .text ['%', 's'] args = .ok filled) :
    ∃ v supply, (Supply.of args).next = .ok (v, supply) ∧ shownText v = .ok filled := by
  obtain ⟨ps, hps, rfl⟩ := map_eq_ok.1 h
  obtain ⟨⟨piece, supply, left⟩, hpiece, hps⟩ := bind_eq_ok.1 hps
  rw [pieceAt_bare] at hpiece
  obtain ⟨⟨v, supply'⟩, hnext, hpiece⟩ := bind_eq_ok.1 hpiece
  obtain ⟨⟨body, signed⟩, hconvert, hpiece⟩ := bind_eq_ok.1 hpiece
  cases hpiece
  rw [convert_bare] at hconvert
  obtain ⟨_, hshown, hbody⟩ := map_eq_ok.1 hconvert
  cases hbody
  refine ⟨v, supply, hnext, ?_⟩
  obtain ⟨more, hmore, hps⟩ := bind_eq_ok.1 hps
  obtain rfl : more = [] := by
    unfold piecesFrom at hmore
    split_ifs at hmore
    exact (Except.ok.inj hmore).symm
  rw [← Except.ok.inj hps, List.flatMap_singleton, Piece.chars, fill_bare, hshown]

/-- The text of a value is what it is shown as. -/
theorem textOf_value {l m : Located} (h : textOf l = .ok m) :
    ∃ cs, shownText l.value = .ok cs ∧ m.value = textValue cs := by
  unfold textOf at h
  split at h
  · next s hs =>
    cases h
    refine ⟨s.toList, by rw [hs]; rfl, ?_⟩
    rw [hs, textValue, String.ofList_toList]
  · next b hb =>
    obtain ⟨cs, hcs, rfl⟩ := map_eq_ok.1 h
    exact ⟨cs, by rw [hb, hcs], rfl⟩
  · next n hn =>
    obtain ⟨cs, hcs, rfl⟩ := map_eq_ok.1 h
    exact ⟨cs, by rw [hn, hcs], written_value _⟩
  · obtain ⟨cs, hcs, rfl⟩ := map_eq_ok.1 h
    exact ⟨cs, hcs, rfl⟩

/-- A bare place takes the only item of a tuple, or any other value as it is. -/
theorem value_of_next {args given : Located} {v : Value} {supply : Supply}
    (hgiven : (match args.value with
      | .tuple _ => single? args
      | _ => some args) = some given)
    (hnext : (Supply.of args.value).next = .ok (v, supply)) : v = given.value := by
  split at hgiven
  · next xs hxs =>
    have hitems := iterate_single? hgiven
    rw [hxs] at hitems hnext
    cases hitems
    cases hnext
    rfl
  · next hother =>
    cases hgiven
    unfold Supply.of at hnext
    split at hnext
    · next xs hxs => exact (hother xs hxs).elim
    · cases hnext
      rfl

/-- What a bare place takes over is what it would be filled to. -/
theorem takenOver?_value {template filled : List Char} {args l : Located}
    (h : takenOver? template args = some l)
    (hfilled : fillTemplate .text template args.value = .ok filled) :
    l.value = textValue filled := by
  unfold takenOver? at h
  dsimp only at h
  split at h
  · next given hbare hgiven =>
    rw [beq_iff_eq] at hbare
    subst hbare
    obtain ⟨v, supply, hv, hshown⟩ := fillTemplate_bare hfilled
    obtain rfl := value_of_next hgiven hv
    have htaken : textOf given = .ok l := by
      cases hof : textOf given with
      | ok m =>
        rw [hof] at h
        split at h <;> cases h <;> rfl
      | error f =>
        rw [hof] at h
        split at h <;> cases h
    obtain ⟨cs, hcs, hl⟩ := textOf_value htaken
    rw [hl, Except.ok.inj (hcs.symm.trans hshown)]
  · cases h

/-! ## Builders -/

/-- The expressions that build a sequence from a smaller one. -/
inductive Builds : Expr → Prop where
  | product (l r : Expr) : Builds (.binary .mul l r)
  | filling (l r : Expr) : Builds (.binary .mod l r)
  | method {name : String} (target : Expr) (args : List Expr)
      (kws : List (Option String × Expr)) :
      name ∈ growingMethods → Builds (.call (.attribute target name) args kws)

/-- The first expression gives a template, which the second one fills to these pieces. -/
def Fills (value : Value) (l r : Expr) (template : List Char) (ps : List Piece) : Prop :=
  ∃ a b, eval value l = .ok a ∧ a.value = textValue template ∧ eval value r = .ok b ∧
    pieces .text template b.value = .ok ps

/-- The ways in which what an expression builds outgrows the limit. -/
inductive Unchecked (value : Value) : Expr → Value → Prop where
  /-- Byte strings are not counted when they are repeated. -/
  | repeatedBytes {l r : Expr} {a b : Located} {bs all : List UInt8} {n : Int} :
      eval value l = .ok a → eval value r = .ok b → RepeatsBytes a.value b.value bs n →
      all.length = bs.length * n.toNat → maxItems < all.length →
      Unchecked value (.binary .mul l r) (.bytes all)
  /-- Templates that are byte strings are not checked. -/
  | filledBytes {l r : Expr} {a b : Located} {template : List UInt8} {filled : List Char} :
      eval value l = .ok a → a.value = .bytes template → eval value r = .ok b →
      fillTemplate .bytes (template.map charOfByte) b.value = .ok filled →
      maxItems < filled.length →
      Unchecked value (.binary .mod l r) (.bytes (filled.map fun c => UInt8.ofNat c.toNat))
  /-- A parenthesis in the template leads the check past a width that is too large. -/
  | misread {l r : Expr} {template : List Char} {ps : List Piece} {piece : Piece} :
      Fills value l r template ps → Misread template → piece ∈ ps → maxItems < piece.width →
      Unchecked value (.binary .mod l r) (textValue (ps.flatMap Piece.chars))
  /-- A value is converted to something longer than its width, which is not counted. -/
  | converted {l r : Expr} {template : List Char} {ps : List Piece} {piece : Piece} :
      Fills value l r template ps → piece ∈ ps → piece.width ≤ maxItems →
      maxItems < piece.chars.length →
      Unchecked value (.binary .mod l r) (textValue (ps.flatMap Piece.chars))
  /-- Pieces that are each within the limit are not counted together. -/
  | joined {l r : Expr} {template : List Char} {ps : List Piece} :
      Fills value l r template ps → (∀ p ∈ ps, p.chars.length ≤ maxItems) → 2 ≤ ps.length →
      maxItems < (ps.map fun p => p.chars.length).sum →
      Unchecked value (.binary .mod l r) (textValue (ps.flatMap Piece.chars))

theorem length_le_flatMap {ps : List Piece} {piece : Piece} (h : piece ∈ ps) :
    piece.chars.length ≤ (ps.flatMap Piece.chars).length := by
  rw [List.length_flatMap]
  exact List.single_le_sum (fun _ _ => Nat.zero_le _) _ (List.mem_map_of_mem h)

/-- Each of these ways leads beyond the limit. -/
theorem Unchecked.exceeds {value : Value} {e : Expr} {v : Value} (h : Unchecked value e v) :
    maxItems < itemCount v := by
  cases h with
  | repeatedBytes _ _ _ _ hlarge => exact hlarge
  | filledBytes _ _ _ _ hlarge =>
    rw [itemCount, List.length_map]
    exact hlarge
  | misread _ _ hmem hwidth =>
    rw [itemCount_textValue]
    exact (hwidth.trans_le (Piece.width_le_length _)).trans_le (length_le_flatMap hmem)
  | converted _ hmem _ hlarge =>
    rw [itemCount_textValue]
    exact hlarge.trans_le (length_le_flatMap hmem)
  | joined _ _ _ hlarge =>
    rw [itemCount_textValue, List.length_flatMap]
    exact hlarge

/-- Two pieces at least are needed to come beyond a limit that each of them keeps. -/
theorem two_le_length {ps : List Piece} (hshort : ∀ p ∈ ps, p.chars.length ≤ maxItems)
    (hlarge : maxItems < (ps.map fun p => p.chars.length).sum) : 2 ≤ ps.length := by
  match ps with
  | [] => exact absurd hlarge (Nat.not_lt_zero _)
  | [piece] =>
    rw [List.map_singleton, List.sum_singleton] at hlarge
    exact absurd hlarge (Nat.not_lt.2 (hshort piece List.mem_cons_self))
  | _ :: _ :: _ => exact Nat.le_add_left 2 _

/-- The pieces of a checked template are too long together only in one of these ways. -/
theorem unchecked_of_fills {value : Value} {l r : Expr} {template : List Char} {ps : List Piece}
    (hfills : Fills value l r template ps) (hcheck : checkTemplate template = .ok ())
    (hlarge : maxItems < (ps.flatMap Piece.chars).length) :
    Unchecked value (.binary .mod l r) (textValue (ps.flatMap Piece.chars)) := by
  by_cases hwide : ∀ p ∈ ps, p.width ≤ maxItems
  swap
  · obtain ⟨p, hmem, hwidth⟩ : ∃ p ∈ ps, maxItems < p.width := by simpa using hwide
    have hmisread : Misread template := by
      by_contra hread
      obtain ⟨_, _, -, -, -, hps⟩ := hfills
      exact absurd (width_le_of_pieces hread hcheck hps p hmem) (Nat.not_le.2 hwidth)
    exact .misread hfills hmisread hmem hwidth
  by_cases hshort : ∀ p ∈ ps, p.chars.length ≤ maxItems
  · rw [List.length_flatMap] at hlarge
    exact .joined hfills hshort (two_le_length hshort hlarge) hlarge
  · obtain ⟨p, hmem, hlong⟩ : ∃ p ∈ ps, maxItems < p.chars.length := by simpa using hshort
    exact .converted hfills hmem (hwide p hmem) hlong

/-- What a template is filled to is within the limit, or passes by the checks. -/
theorem size_of_filling {value : Value} {l r : Expr} {a b v : Located} (ha : eval value l = .ok a)
    (hb : eval value r = .ok b) (h : remainder a b = .ok v) (hlarge : maxItems < itemCount v.value) :
    Unchecked value (.binary .mod l r) v.value := by
  unfold remainder at h
  split at h
  · next s hs =>
    obtain ⟨_, hcheck, h⟩ := bind_eq_ok.1 h
    obtain ⟨filled, hfilled, h⟩ := bind_eq_ok.1 h
    replace hfilled := mapError_eq_ok.1 hfilled
    -- A text that is taken over as it is has the characters of the filling as well.
    have hv : v.value = textValue filled := by
      rw [← Except.ok.inj h]
      cases htaken : takenOver? s.toList b with
      | none => rfl
      | some given => exact takenOver?_value htaken hfilled
    obtain ⟨ps, hps, rfl⟩ := map_eq_ok.1 hfilled
    have hs' : a.value = textValue s.toList := by rw [hs, textValue, String.ofList_toList]
    rw [hv, itemCount_textValue] at hlarge
    rw [hv]
    exact unchecked_of_fills ⟨a, b, ha, hs', hb, hps⟩ hcheck hlarge
  · next bs hbs =>
    obtain ⟨filled, hfilled, rfl⟩ := map_eq_ok.1 (mapError_eq_ok.1 h)
    rw [Located.fresh, itemCount, List.length_map] at hlarge
    exact .filledBytes ha hbs hb hfilled hlarge
  · obtain ⟨rest, hrest, rfl⟩ := map_eq_ok.1 (mapError_eq_ok.1 h)
    have hnone : itemCount (Located.fresh rest).value = 0 :=
      itemCount_onNumbers itemCount_modNumbers hrest
    rw [hnone] at hlarge
    exact absurd hlarge (Nat.not_lt_zero _)

/-- Whatever an expression builds by repeating, by filling a template, by filling up with zeros, by
    replacing or by joining is within the limit, unless it passes by the checks in one of these
    ways; and each of them leads beyond the limit. -/
theorem size_of_builds {value : Value} {e : Expr} {v : Located} (he : Builds e)
    (h : eval value e = .ok v) : maxItems < itemCount v.value ↔ Unchecked value e v.value := by
  refine ⟨fun hlarge => ?_, Unchecked.exceeds⟩
  -- A method is bounded by its result; only products and fillings build more than was checked.
  cases he with
  | product l r =>
    rw [eval] at h
    obtain ⟨a, ha, h⟩ := bind_eq_ok.1 h
    obtain ⟨b, hb, h⟩ := bind_eq_ok.1 h
    rcases size_of_product h with hle | ⟨bs, n, all, hfactors, hall, hlength⟩
    · exact absurd hlarge (Nat.not_lt.2 hle)
    · rw [hall] at hlarge ⊢
      exact .repeatedBytes ha hb hfactors hlength hlarge
  | filling l r =>
    rw [eval] at h
    obtain ⟨a, ha, h⟩ := bind_eq_ok.1 h
    obtain ⟨b, hb, h⟩ := bind_eq_ok.1 h
    exact size_of_filling ha hb h hlarge
  | method target args kws hname =>
    rw [eval] at h
    split_ifs at h
    obtain ⟨ls, -, h⟩ := bind_eq_ok.1 h
    obtain ⟨ks, -, h⟩ := bind_eq_ok.1 h
    obtain ⟨t, -, h⟩ := bind_eq_ok.1 h
    exact absurd hlarge (Nat.not_lt.2 (size_of_method hname h))

/-- A text that is repeated as often as the extracted value says. -/
def repeatedText : Expr :=
  .binary .mul (.constant (.text "ab")) (.name "value")

theorem size_of_repeatedText :
    Builds repeatedText ∧ eval (.int 3) repeatedText = .ok (.fresh (.text "ababab")) ∧
    (maxItems < itemCount (.text "ababab") ↔
      Unchecked (.int 3) repeatedText (.text "ababab")) := by
  have heval : eval (.int 3) repeatedText = .ok (.fresh (.text "ababab")) := rfl
  exact ⟨.product _ _, heval, size_of_builds (.product _ _) heval⟩

/-! ## A repeated byte -/

/-- A byte string of one byte, repeated as often as the extracted value says. -/
def repeatedByte : Expr :=
  .binary .mul (.constant (.bytes [97])) (.name "value")

theorem parse?_repeatedByte : parse? "b'a' * value".toList = some repeatedByte := by
  have hlex : lex "b'a' * value".toList = some [.bytes [97], .sign "*", .word "value"] := by cbv
  have hread : expressions (40 * ("b'a' * value".toList.length + 2))
      [.bytes [97], .sign "*", .word "value"] = some ([repeatedByte], false) := by cbv
  rw [parse?, hlex, Option.bind_eq_bind, Option.bind_some, hread]
  rfl

theorem compile_repeatedByte : compile "b'a' * value" = .ok repeatedByte := by
  have hcomplaint : repeatedByte.complaint? = none := by cbv
  exact compile_of_parse? (by decide) (by decide) (by decide) parse?_repeatedByte hcomplaint

theorem eval_repeatedByte :
    eval (.int 100001) repeatedByte = .ok ⟨.bytes (repeated [97] 100001), .copy⟩ :=
  rfl

/-- A repeated byte string is longer than the limit, and no error. -/
theorem repeatedByte_exceeds :
    compile "b'a' * value" = .ok repeatedByte ∧ Builds repeatedByte ∧
      ∃ v, apply (.int 100001) "b'a' * value" = .ok v ∧ maxItems < itemCount v := by
  refine ⟨compile_repeatedByte, .product _ _, .bytes (repeated [97] 100001), ?_, ?_⟩
  · rw [apply, compile_repeatedByte]
    exact congrArg (fun r => (r.map (·.value)).mapError Error.reported) eval_repeatedByte
  · rw [itemCount, length_repeated]
    decide

end ApiJourney.Transform
