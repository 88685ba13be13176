-- SUMMARY: Documents written as compact JSON, and that they are read back.
import ApiJourney.Proofs.Json.Escapes
import ApiJourney.Proofs.Number.Written

/-!
# Written documents

Reading the compact text of a document gives the document again, with its keys in the same order.
A reader takes a written value off the front of a text, whatever follows: the separator of the
next value, a closing bracket or nothing. What it needs are as many more containers as the value
nests, and the reader follows only so many of them.
-/

namespace ApiJourney.Json

open Numeral Text

/-! ## Documents -/

/-- A value that a document can hold, with containers nested at most so deep: it has no doubles,
    no integers of too many digits, and in an object texts for keys and none of them twice. -/
inductive Document : Nat → Value → Prop where
  | null {n : Nat} : Document n .null
  | bool {n : Nat} (b : Bool) : Document n (.bool b)
  | int {n : Nat} {k : Int} (h : Short k) : Document n (.int k)
  | text {n : Nat} (s : String) : Document n (.text s)
  | list {n : Nat} {xs : List Value} (h : ∀ x ∈ xs, Document n x) : Document (n + 1) (.list xs)
  | dict {n : Nat} {es : Entries} (hkeys : ∀ e ∈ es, ∃ k, e.1 = .text k) (hdistinct : es.Distinct)
      (h : ∀ e ∈ es, Document n e.2) : Document (n + 1) (.dict es)

/-- What can follow a value in a written document. -/
def Follows (rest : List Char) : Prop :=
  ∀ c ∈ rest.head?, c = ',' ∨ c = ']' ∨ c = '\x7d'

theorem follows_cons {c : Char} (h : c = ',' ∨ c = ']' ∨ c = '\x7d') (rest : List Char) :
    Follows (c :: rest) := by
  intro d hd
  obtain rfl := Option.some.inj hd
  exact h

/-- A text stands for a value: it starts as a value does, and a reader takes it off the front of
    any text as that value. -/
structure StandsFor (n : Nat) (cs : List Char) (v : Value) : Prop where
  start : ∃ c rest, cs = c :: rest ∧ isJsonBlank c = false ∧ c ≠ ']' ∧ c ≠ '\x7d'
  value_eq : ∀ {fuel depth : Nat} {rest : List Char}, cs.length < fuel → depth + n ≤ maxDepth →
    Follows rest → value fuel depth (cs ++ rest) = .ok (v, rest)

theorem skipBlanks_cons {c : Char} (h : isJsonBlank c = false) (rest : List Char) :
    skipBlanks (c :: rest) = c :: rest :=
  List.dropWhile_cons_of_neg (by simp [h])

theorem StandsFor.skipBlanks_append {n : Nat} {cs : List Char} {v : Value} (h : StandsFor n cs v)
    (rest : List Char) : skipBlanks (cs ++ rest) = cs ++ rest := by
  obtain ⟨c, cs', rfl, hblank, -⟩ := h.start
  exact skipBlanks_cons hblank _

/-- A text of its own that stands for a value is read as the value. -/
theorem StandsFor.read_eq {n : Nat} {cs : List Char} {v : Value} (h : StandsFor n cs v)
    (hn : n ≤ maxDepth) : read cs = .ok v := by
  have hvalue : value (cs.length + 1) 0 cs = .ok (v, []) := by
    have hend : Follows [] := nofun
    have hread := h.value_eq (Nat.lt_succ_self _) (Nat.zero_add n ▸ hn) hend
    rwa [List.append_nil] at hread
  have hblanks : skipBlanks cs = cs := by
    have h := h.skipBlanks_append []
    rwa [List.append_nil] at h
  rw [read, hblanks, hvalue]
  rfl

/-! ## Texts -/

theorem standsFor_text {style : Style} (n : Nat) {s : String} (h : Unpaired style s.toList) :
    StandsFor n (writeText style s.toList) (.text s) := by
  refine ⟨⟨'"', _, rfl, rfl, by decide, by decide⟩, fun {fuel depth rest} hfuel _ _ => ?_⟩
  rw [length_writeText] at hfuel
  obtain ⟨fuel, rfl⟩ := Nat.exists_eq_add_one_of_ne_zero (Nat.ne_zero_of_lt hfuel)
  rw [writeText_append, value, textBody_written h (by omega)]
  simp [bind, Except.bind]

/-! ## Words and numbers -/

theorem standsFor_scalar {n : Nat} {c : Char} {cs : List Char} {v : Value}
    (hblank : isJsonBlank c = false) (hquote : c ≠ '"') (hlist : c ≠ '[' ∧ c ≠ ']')
    (hobject : c ≠ '\x7b' ∧ c ≠ '\x7d')
    (h : ∀ rest, Follows rest → scalar (c :: cs ++ rest) = .ok (v, rest)) :
    StandsFor n (c :: cs) v := by
  refine ⟨⟨c, cs, rfl, hblank, hlist.2, hobject.2⟩, fun {fuel depth rest} hfuel _ hrest => ?_⟩
  obtain ⟨fuel, rfl⟩ := Nat.exists_eq_add_one_of_ne_zero (Nat.ne_zero_of_lt hfuel)
  rw [List.cons_append, value, ← List.cons_append, h rest hrest]
  · exact fun _ heq => hquote (List.cons.inj heq).1
  · exact fun _ heq => hlist.1 (List.cons.inj heq).1
  · exact fun _ heq => hobject.1 (List.cons.inj heq).1

theorem standsFor_null (n : Nat) : StandsFor n ['n', 'u', 'l', 'l'] .null := by
  refine standsFor_scalar rfl (by decide) (by decide) (by decide) fun rest _ => ?_
  simp [scalar, words, after?]

theorem standsFor_true (n : Nat) : StandsFor n ['t', 'r', 'u', 'e'] (.bool true) := by
  refine standsFor_scalar rfl (by decide) (by decide) (by decide) fun rest _ => ?_
  simp [scalar, words, after?]

theorem standsFor_false (n : Nat) : StandsFor n ['f', 'a', 'l', 's', 'e'] (.bool false) := by
  refine standsFor_scalar rfl (by decide) (by decide) (by decide) fun rest _ => ?_
  simp [scalar, words, after?]

/-- Digits end where something follows. -/
theorem digits_append {ds rest : List Char} (hds : ∀ c ∈ ds, isAsciiDigit c = true)
    (hrest : Follows rest) :
    (ds ++ rest).takeWhile isAsciiDigit = ds ∧ (ds ++ rest).dropWhile isAsciiDigit = rest := by
  rw [List.takeWhile_append_of_pos hds, List.dropWhile_append_of_pos hds]
  cases rest with
  | nil => simp
  | cons c rest =>
    have hc : isAsciiDigit c = false := by
      rcases hrest c rfl with rfl | rfl | rfl <;> rfl
    simp [hc]

theorem wholeDigits_written (n : Int) {rest : List Char} (hrest : Follows rest) :
    wholeDigits (digitsOf n ++ rest) = (digitsOf n, rest) := by
  rcases digitsOf_first n with hzero | ⟨c, ds, hds, hc⟩
  · rw [hzero]
    rfl
  · have hdigits := digits_append (isAsciiDigit_of_mem_digitsOf (n := n)) hrest
    rw [hds] at hdigits ⊢
    rw [List.cons_append] at hdigits ⊢
    rw [wholeDigits, hdigits.1, hdigits.2]
    exact fun _ heq => hc (List.cons.inj heq).1

theorem fractionDigits_follows {rest : List Char} (h : Follows rest) :
    fractionDigits rest = none := by
  cases rest with
  | nil => rfl
  | cons c rest => rcases h c rfl with rfl | rfl | rfl <;> rfl

theorem exponentPart_follows {rest : List Char} (h : Follows rest) :
    exponentPart rest = none := by
  cases rest with
  | nil => rfl
  | cons c rest => rcases h c rfl with rfl | rfl | rfl <;> rfl

theorem integerOf_digitsOf {n : Int} (h : Short n) :
    integerOf (decide (n < 0)) (digitsOf n) = .ok (.int n) := by
  rw [integerOf, if_neg (Nat.not_lt.2 (length_digitsOf_le.2 h)), ofDigits_digitsOf]
  simpa using signed_natAbs n

theorem digitsOf_cons (n : Int) : ∃ c ds, digitsOf n = c :: ds ∧ isAsciiDigit c = true := by
  obtain ⟨c, ds, hds⟩ := List.exists_cons_of_ne_nil (digitsOf_ne_nil n)
  exact ⟨c, ds, hds, isAsciiDigit_of_mem_digitsOf c (hds ▸ List.mem_cons_self)⟩

/-- A written integer is read up to what follows. -/
theorem number_written {n : Int} (h : Short n) {rest : List Char} (hrest : Follows rest) :
    number (signOf n ++ digitsOf n ++ rest) = .ok (.int n, rest) := by
  unfold number
  split
  next negative body hbody =>
  obtain ⟨rfl, rfl⟩ : negative = decide (n < 0) ∧ body = digitsOf n ++ rest := by
    by_cases hn : n < 0
    · rw [signOf, if_pos hn] at hbody
      cases hbody
      exact ⟨(decide_eq_true hn).symm, rfl⟩
    · rw [signOf, if_neg hn, List.nil_append] at hbody
      obtain ⟨c, ds, hds, hc⟩ := digitsOf_cons n
      rw [hds] at hbody
      split at hbody
      · next hcons =>
        obtain rfl := (List.cons.inj hcons).1
        cases hc
      · cases hbody
        exact ⟨(decide_eq_false hn).symm, hds ▸ rfl⟩
  rw [wholeDigits_written n hrest]
  simp [digitsOf_ne_nil, fractionDigits_follows hrest, exponentPart_follows hrest,
    integerOf_digitsOf h, bind, Except.bind]

theorem scalar_of_no_word {cs : List Char} (h : ∀ p ∈ words, after? p.1 cs = none) :
    scalar cs = number cs := by
  unfold scalar
  split
  · next hfound =>
    obtain ⟨⟨w, v⟩, hmem, hword⟩ := List.exists_of_findSome?_eq_some hfound
    dsimp only at hword
    rw [h (w, v) hmem] at hword
    cases hword
  · rfl

theorem scalar_written {n : Int} (h : Short n) {rest : List Char} (hrest : Follows rest) :
    scalar (signOf n ++ digitsOf n ++ rest) = .ok (.int n, rest) := by
  obtain ⟨c, ds, hds, hc⟩ := digitsOf_cons n
  have hne : ∀ d, isAsciiDigit d = false → d ≠ c := by
    rintro d hd rfl
    rw [hc] at hd
    cases hd
  -- No word starts with a digit, or with a minus sign in front of one.
  have hword : ∀ p ∈ words, after? p.1 (signOf n ++ digitsOf n ++ rest) = none := by
    rw [hds, signOf]
    split_ifs <;>
      simp [words, after?, hne 'n' rfl, hne 't' rfl, hne 'f' rfl, hne 'N' rfl, hne 'I' rfl,
        hne '-' rfl]
  rw [scalar_of_no_word hword]
  exact number_written h hrest

theorem standsFor_int (n : Nat) {k : Int} (h : Short k) :
    StandsFor n (toString k).toList (.int k) := by
  obtain ⟨c, ds, hds, hc⟩ := digitsOf_cons k
  have hread : ∀ rest, Follows rest →
      scalar (signOf k ++ digitsOf k ++ rest) = .ok (.int k, rest) :=
    fun rest hrest => scalar_written h hrest
  rw [toList_toString]
  rw [signOf, hds] at hread ⊢
  split_ifs at hread ⊢ with hk
  · exact standsFor_scalar rfl (by decide) (by decide) (by decide) hread
  · have hne : ∀ d, isAsciiDigit d = false → c ≠ d := by
      rintro d hd rfl
      rw [hc] at hd
      cases hd
    have hblank : isJsonBlank c = false := by
      simp [isJsonBlank, hne ' ' rfl, hne '\t' rfl, hne '\n' rfl, hne '\r' rfl]
    exact standsFor_scalar hblank (hne '"' rfl) ⟨hne '[' rfl, hne ']' rfl⟩
      ⟨hne '\x7b' rfl, hne '\x7d' rfl⟩ hread

/-! ## Containers -/

theorem joined_front (t : List Char) (ts : List (List Char)) :
    ∃ rest, joined [','] (t :: ts) = t ++ rest := by
  cases ts with
  | nil => exact ⟨[], (List.append_nil t).symm⟩
  | cons t' ts => exact ⟨_, joined_cons ',' t t' ts⟩

/-- Parts between separators are read up to the closing bracket, by a reader that takes one part
    off the front and goes on behind its separator. -/
theorem read_joined {α : Type} {R : List Char → α → Prop} {close : Char}
    (reader : Nat → List Char → Except Fault (List α × List Char))
    (hlast : ∀ {t a fuel}, R t a → t.length < fuel → ∀ rest,
      reader (fuel + 1) (t ++ close :: rest) = .ok ([a], rest))
    (hstep : ∀ {t a t' a' fuel}, R t a → R t' a' → t.length < fuel → ∀ rest,
      reader (fuel + 1) (t ++ ',' :: (t' ++ rest)) =
        (reader fuel (t' ++ rest)).map fun r => (a :: r.1, r.2))
    {ts : List (List Char)} {as : List α} (h : List.Forall₂ R ts as) (hne : ts ≠ []) {fuel : Nat}
    (hfuel : (joined [','] ts).length + 1 < fuel) (rest : List Char) :
    reader fuel (joined [','] ts ++ close :: rest) = .ok (as, rest) := by
  induction h generalizing fuel with
  | nil => exact absurd rfl hne
  | @cons t a ts as ht hts ih =>
    obtain ⟨fuel, rfl⟩ := Nat.exists_eq_add_one_of_ne_zero (Nat.ne_zero_of_lt hfuel)
    cases hts with
    | nil => exact hlast ht (Nat.lt_of_add_lt_add_right hfuel) rest
    | @cons t' a' ts as ht' hts =>
      rw [joined_cons, List.length_append, List.length_cons] at hfuel
      have hnext : reader fuel (joined [','] (t' :: ts) ++ close :: rest) = .ok (a' :: as, rest) :=
        ih (List.cons_ne_nil _ _) (by omega)
      -- The next item stands at the front of what follows, which is the form `hstep` speaks of.
      obtain ⟨tail, htail⟩ := joined_front t' ts
      rw [htail, List.append_assoc] at hnext
      rw [joined_cons, htail, List.append_assoc, List.cons_append, List.append_assoc,
        hstep ht ht' (by omega), hnext]
      rfl

section Containers

variable {n depth : Nat} (hdepth : depth + n ≤ maxDepth)

include hdepth

theorem items_joined {ts : List (List Char)} {xs : List Value}
    (h : List.Forall₂ (StandsFor n) ts xs) (hne : ts ≠ []) {fuel : Nat}
    (hfuel : (joined [','] ts).length + 1 < fuel) (rest : List Char) :
    items fuel depth (joined [','] ts ++ ']' :: rest) = .ok (xs, rest) := by
  refine read_joined (fun fuel cs => items fuel depth cs) (fun {t x fuel} ht hlt rest => ?_)
    (fun {t x t' x' fuel} ht ht' hlt rest => ?_) h hne hfuel rest
  · rw [items, ht.value_eq hlt hdepth (follows_cons (.inr (.inl rfl)) rest)]
    rfl
  · have hnext : skipBlanks (',' :: (t' ++ rest)) = ',' :: (t' ++ rest) := rfl
    rw [items, ht.value_eq hlt hdepth (follows_cons (.inl rfl) _)]
    simp only [bind, Except.bind, hnext, ht'.skipBlanks_append]
    cases items fuel depth (t' ++ rest) <;> rfl

/-- How a field of an object is written. -/
def FieldText (n : Nat) (t : List Char) (e : Value × Value) : Prop :=
  ∃ k cs, e.1 = .text k ∧ StandsFor n cs e.2 ∧ t = writeText compact k.toList ++ ':' :: cs

omit hdepth in
theorem FieldText.skipBlanks_append {t : List Char} {e : Value × Value} (h : FieldText n t e)
    (rest : List Char) : skipBlanks (t ++ rest) = t ++ rest := by
  obtain ⟨k, cs, -, -, rfl⟩ := h
  rfl

/-- A written field is read up to the brace or the separator behind it. -/
theorem fields_front {t : List Char} {e : Value × Value} (h : FieldText n t e) {fuel : Nat}
    (hfuel : t.length < fuel) {c : Char} (hc : c = ',' ∨ c = '\x7d') (rest : List Char) :
    fields (fuel + 1) depth (t ++ c :: rest) =
      if c = '\x7d' then .ok ([e], rest)
      else (fields fuel depth (skipBlanks rest)).map fun r => (e :: r.1, r.2) := by
  obtain ⟨k, v⟩ := e
  obtain ⟨k, cs, rfl, hcs, rfl⟩ := h
  rw [List.length_append, List.length_cons, length_writeText] at hfuel
  have hcolon : skipBlanks (':' :: (cs ++ c :: rest)) = ':' :: (cs ++ c :: rest) := rfl
  have hfollows : Follows (c :: rest) := follows_cons (hc.imp_right .inr) rest
  rw [List.append_assoc, List.cons_append, writeText_append, fields,
    textBody_written (unpaired_compact _) (by omega)]
  simp only [bind, Except.bind, hcolon, hcs.skipBlanks_append]
  rw [hcs.value_eq (by omega) hdepth hfollows]
  simp only [String.ofList_toList]
  rcases hc with rfl | rfl
  · have hcomma : skipBlanks (',' :: rest) = ',' :: rest := rfl
    rw [if_neg (by decide), hcomma]
    cases h : fields fuel depth (skipBlanks rest) <;> simp [h, Except.map]
  · rfl

theorem fields_joined {ts : List (List Char)} {es : List (Value × Value)}
    (h : List.Forall₂ (FieldText n) ts es) (hne : ts ≠ []) {fuel : Nat}
    (hfuel : (joined [','] ts).length + 1 < fuel) (rest : List Char) :
    fields fuel depth (joined [','] ts ++ '\x7d' :: rest) = .ok (es, rest) := by
  refine read_joined (fun fuel cs => fields fuel depth cs) (fun {t e fuel} ht hlt rest => ?_)
    (fun {t e t' e' fuel} ht ht' hlt rest => ?_) h hne hfuel rest
  · exact fields_front hdepth ht hlt (.inr rfl) rest
  · rw [fields_front hdepth ht hlt (.inl rfl), ht'.skipBlanks_append]
    rfl

end Containers

theorem standsFor_list {n : Nat} {ts : List (List Char)} {xs : List Value}
    (h : List.Forall₂ (StandsFor n) ts xs) :
    StandsFor (n + 1) ('[' :: joined [','] ts ++ [']']) (.list xs) := by
  refine ⟨⟨'[', _, rfl, rfl, by decide, by decide⟩, fun {fuel depth rest} hfuel hdepth _ => ?_⟩
  obtain ⟨fuel, rfl⟩ := Nat.exists_eq_add_one_of_ne_zero (Nat.ne_zero_of_lt hfuel)
  simp only [List.length_append, List.length_cons, List.length_nil] at hfuel
  have hopen : '[' :: joined [','] ts ++ [']'] ++ rest =
      '[' :: (joined [','] ts ++ ']' :: rest) := by
    simp
  rw [hopen, value, if_neg (by omega)]
  cases h with
  | nil => rfl
  | @cons t x ts xs ht hts =>
    have hitems := items_joined (Nat.add_right_comm depth n 1 ▸ hdepth) (.cons ht hts)
      (List.cons_ne_nil _ _) (by omega : _ < fuel) rest
    obtain ⟨c, t, rfl, hblank, hclose, -⟩ := ht.start
    obtain ⟨tail, htail⟩ := joined_front (c :: t) ts
    rw [htail, List.cons_append, List.cons_append] at hitems ⊢
    rw [skipBlanks_cons hblank]
    split
    · next hcons => exact absurd (List.cons.inj hcons).1 hclose
    · rw [hitems]
      rfl

theorem standsFor_dict {n : Nat} {ts : List (List Char)} {es : Entries} (hdistinct : es.Distinct)
    (h : List.Forall₂ (FieldText n) ts es) :
    StandsFor (n + 1) ('\x7b' :: joined [','] ts ++ ['\x7d']) (.dict es) := by
  refine ⟨⟨'\x7b', _, rfl, rfl, by decide, by decide⟩, fun {fuel depth rest} hfuel hdepth _ => ?_⟩
  obtain ⟨fuel, rfl⟩ := Nat.exists_eq_add_one_of_ne_zero (Nat.ne_zero_of_lt hfuel)
  simp only [List.length_append, List.length_cons, List.length_nil] at hfuel
  have hopen : '\x7b' :: joined [','] ts ++ ['\x7d'] ++ rest =
      '\x7b' :: (joined [','] ts ++ '\x7d' :: rest) := by
    simp
  rw [hopen, value, if_neg (by omega)]
  cases h with
  | nil => rfl
  | @cons t e ts es ht hts =>
    have hfields := fields_joined (Nat.add_right_comm depth n 1 ▸ hdepth) (.cons ht hts)
      (List.cons_ne_nil _ _) (by omega : _ < fuel) rest
    obtain ⟨k, cs, -, -, rfl⟩ := ht
    obtain ⟨tail, htail⟩ := joined_front (writeText compact k.toList ++ ':' :: cs) ts
    rw [htail, List.append_assoc, List.append_assoc, writeText_append] at hfields ⊢
    rw [skipBlanks_cons rfl]
    split
    · next hcons => exact absurd (List.cons.inj hcons).1 (by decide)
    · rw [hfields]
      simp [bind, Except.bind, Entries.ofList_of_distinct hdistinct]

/-! ## Writing -/

theorem writeItems_ok {R : List Char → Value → Prop} {xs : List Value}
    (h : ∀ x ∈ xs, ∃ cs, write compact x = .ok cs ∧ R cs x) :
    ∃ ts, writeItems compact xs = .ok ts ∧ List.Forall₂ R ts xs := by
  induction xs with
  | nil => exact ⟨[], by rw [writeItems], .nil⟩
  | cons x xs ih =>
    rw [List.forall_mem_cons] at h
    obtain ⟨⟨t, ht, hx⟩, hxs⟩ := h
    obtain ⟨ts, hts, hrest⟩ := ih hxs
    refine ⟨t :: ts, ?_, .cons hx hrest⟩
    rw [writeItems, ht, hts]
    rfl

theorem writeEntries_ok {n : Nat} {es : Entries} (hkeys : ∀ e ∈ es, ∃ k, e.1 = .text k)
    (h : ∀ e ∈ es, ∃ cs, write compact e.2 = .ok cs ∧ StandsFor n cs e.2) :
    ∃ ts, writeEntries compact es = .ok ts ∧ List.Forall₂ (FieldText n) ts es := by
  induction es with
  | nil => exact ⟨[], by rw [writeEntries], .nil⟩
  | cons e es ih =>
    rw [List.forall_mem_cons] at h hkeys
    obtain ⟨⟨t, ht, he⟩, hes⟩ := h
    obtain ⟨⟨k, hk⟩, hkeys⟩ := hkeys
    obtain ⟨ts, hts, hrest⟩ := ih hkeys hes
    obtain ⟨key, v⟩ := e
    obtain rfl : key = .text k := hk
    replace ht : write compact v = .ok t := ht
    refine ⟨(writeText compact k.toList ++ ':' :: t) :: ts, ?_, .cons ⟨k, t, rfl, he, rfl⟩ hrest⟩
    rw [writeEntries, keyText]
    simp only [ht, hts, bind, Except.bind]
    rw [List.append_assoc]
    rfl

theorem writeInt_of_short {n : Int} (h : Short n) : writeInt n = .ok (toString n).toList := by
  -- `delta`, since the equation of the definition would evaluate the bound on its digits.
  delta writeInt
  rw [intText?_of_short h]

/-- A document is written, and its text stands for it. -/
theorem write_document {n : Nat} {d : Value} (h : Document n d) :
    ∃ cs, write compact d = .ok cs ∧ StandsFor n cs d := by
  induction h with
  | null => exact ⟨_, by rw [write]; rfl, standsFor_null _⟩
  | bool b =>
    cases b with
    | true => exact ⟨_, by rw [write]; rfl, standsFor_true _⟩
    | false => exact ⟨_, by rw [write]; rfl, standsFor_false _⟩
  | @int n k hk =>
    refine ⟨(toString k).toList, ?_, standsFor_int n hk⟩
    rw [write, writeInt_of_short hk]
  | text s => exact ⟨writeText compact s.toList, by rw [write], standsFor_text _ (unpaired_compact _)⟩
  | list _ ih =>
    obtain ⟨ts, hts, hrel⟩ := writeItems_ok ih
    refine ⟨_, ?_, standsFor_list hrel⟩
    rw [write, hts]
    rfl
  | dict hkeys hdistinct _ ih =>
    obtain ⟨ts, hts, hrel⟩ := writeEntries_ok hkeys ih
    refine ⟨_, ?_, standsFor_dict hdistinct hrel⟩
    rw [write, hts]
    rfl

/-- The compact text of a document is read as the document, unless its containers are nested
    deeper than a reader follows. -/
theorem parse_text {n : Nat} {d : Value} (h : Document n d) (hn : n ≤ maxDepth) :
    ∃ t, text d = .ok t ∧ parse t = .ok d := by
  obtain ⟨cs, hwrite, hstands⟩ := write_document h
  exact ⟨String.ofList cs, by rw [text, hwrite]; rfl, by
    rw [parse, String.toList_ofList, hstands.read_eq hn]⟩

/-! ## Documents nested too deep -/

/-- An empty list inside of so many others. -/
def nested : Nat → Value
  | 0 => .list []
  | n + 1 => .list [nested n]

theorem document_nested (n : Nat) : Document (n + 1) (nested n) := by
  induction n with
  | zero => exact .list nofun
  | succ n ih => exact .list (List.forall_mem_singleton.2 ih)

/-- The text of nested lists: as many brackets open as close. -/
def nestedText (n : Nat) : List Char :=
  List.replicate (n + 1) '[' ++ List.replicate (n + 1) ']'

theorem write_nested (n : Nat) : write compact (nested n) = .ok (nestedText n) := by
  induction n with
  | zero =>
    rw [nested, write, writeItems]
    rfl
  | succ n ih =>
    rw [nested, write, writeItems, writeItems, ih, nestedText, nestedText,
      List.replicate_succ (n := n + 1), List.replicate_succ' (n := n + 1)]
    simp [bind, Except.bind, joined]

/-- A reader gives up at the bracket that opens one container too many. -/
theorem value_tooDeep {k fuel depth : Nat} (hfuel : 2 * k < fuel) (hdepth : maxDepth ≤ depth + k)
    (rest : List Char) :
    value fuel depth (List.replicate (k + 1) '[' ++ rest) = .error .tooDeep := by
  induction k generalizing fuel depth with
  | zero =>
    obtain ⟨fuel, rfl⟩ := Nat.exists_eq_add_one_of_ne_zero (Nat.ne_zero_of_lt hfuel)
    exact if_pos hdepth
  | succ k ih =>
    obtain ⟨fuel, rfl⟩ : ∃ f, fuel = f + 2 := ⟨fuel - 2, by omega⟩
    rw [List.replicate_succ, List.cons_append, value]
    split_ifs
    · rfl
    · have hbracket : skipBlanks (List.replicate (k + 1) '[' ++ rest) =
          List.replicate (k + 1) '[' ++ rest := rfl
      rw [hbracket]
      have hinner := @ih fuel (depth + 1) (by omega) (by omega)
      rw [List.replicate_succ, List.cons_append] at hinner ⊢
      split
      · next hcons => exact absurd (List.cons.inj hcons).1 (by decide)
      · rw [items, hinner]
        rfl

theorem parse_nestedText {n : Nat} (h : maxDepth ≤ n) :
    parse (String.ofList (nestedText n)) = .error .tooDeep := by
  have hlength : (nestedText n).length = 2 * n + 2 := by
    simp [nestedText]
    omega
  have hblanks : skipBlanks (nestedText n) = nestedText n := rfl
  rw [parse, String.toList_ofList, read, hblanks, nestedText,
    value_tooDeep (by rw [← nestedText]; omega) (by omega)]
  rfl

end ApiJourney.Json
