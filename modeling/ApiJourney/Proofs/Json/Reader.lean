-- SUMMARY: What reading a JSON text gives, and why a text is refused.
import ApiJourney.Json.Reader
import ApiJourney.Proofs.Outcome
import ApiJourney.Proofs.Value.Keys

/-!
# Texts that are read

Each reader leaves an end of its text to the next one, behind which as many containers stand open
as in front of it. The values that are read hold no key twice in an object, and only a text that
is nested too deeply fails otherwise than by being malformed.
-/

namespace ApiJourney.Json

open Value

/-! ## Nesting -/

def isOpening (c : Char) : Bool :=
  c == '[' || c == '\x7b'

def isClosing (c : Char) : Bool :=
  c == ']' || c == '\x7d'

/-- Neither a quote nor a bracket nor a brace. -/
def isBare (c : Char) : Bool :=
  !(c == '"' || isOpening c || isClosing c)

/-- Outside of quotes, between two of them, or behind a backslash between them. -/
inductive Quoting where
  | outside
  | quoted
  | escaped

/-- The most containers that stand open at once in a text, with those that stand open before it.
    What stands between quotes opens and closes nothing. -/
def mostOpened : Quoting → Nat → List Char → Nat
  | _, opened, [] => opened
  | .escaped, opened, _ :: rest => mostOpened .quoted opened rest
  | .quoted, opened, c :: rest =>
    if c == '"' then mostOpened .outside opened rest
    else if c == '\\' then mostOpened .escaped opened rest
    else mostOpened .quoted opened rest
  | .outside, opened, c :: rest =>
    if c == '"' then mostOpened .quoted opened rest
    else if isOpening c then mostOpened .outside (opened + 1) rest
    else if isClosing c then max opened (mostOpened .outside (opened - 1) rest)
    else mostOpened .outside opened rest

/-- How deeply the containers of a text are nested. -/
def nesting (cs : List Char) : Nat :=
  mostOpened .outside 0 cs

example : nesting "[\x7b\"a\": \"[[\\\"[\"\x7d, \x7b\x7d]".toList = 2 := by decide

theorem le_mostOpened (q : Quoting) (opened : Nat) (cs : List Char) :
    opened ≤ mostOpened q opened cs := by
  induction cs generalizing q opened with
  | nil => cases q <;> exact Nat.le_refl _
  | cons c rest ih =>
    cases q with
    | escaped => exact ih .quoted opened
    | quoted =>
      rw [mostOpened]
      split_ifs <;> exact ih _ _
    | outside =>
      rw [mostOpened]
      split_ifs
      · exact ih .quoted opened
      · exact (Nat.le_succ _).trans (ih .outside (opened + 1))
      · exact Nat.le_max_left _ _
      · exact ih .outside opened

theorem mostOpened_bare {c : Char} (h : isBare c = true) (opened : Nat) (rest : List Char) :
    mostOpened .outside opened (c :: rest) = mostOpened .outside opened rest := by
  simp only [isBare, Bool.not_eq_true', Bool.or_eq_false_iff] at h
  rw [mostOpened, h.1.1, h.1.2, h.2]
  rfl

theorem mostOpened_opens {c : Char} (h : isOpening c = true) (opened : Nat) (rest : List Char) :
    mostOpened .outside opened (c :: rest) = mostOpened .outside (opened + 1) rest := by
  have hquote : (c == '"') = false := by
    rw [beq_eq_false_iff_ne]
    rintro rfl
    cases h
  rw [mostOpened, hquote, h]
  rfl

theorem mostOpened_plain {c : Char} (hquote : c ≠ '"') (hslash : c ≠ '\\') (opened : Nat)
    (rest : List Char) : mostOpened .quoted opened (c :: rest) = mostOpened .quoted opened rest := by
  rw [mostOpened, beq_eq_false_iff_ne.2 hquote, beq_eq_false_iff_ne.2 hslash]
  rfl

/-- Somewhere in a text more containers stand open at once than are followed in any place. -/
def HoldsDeep (cs : List Char) : Prop :=
  ∃ part, part <:+: cs ∧ plainNesting < nesting part

theorem HoldsDeep.mono {part cs : List Char} (h : HoldsDeep part) (hpart : part <:+: cs) :
    HoldsDeep cs :=
  let ⟨deep, hdeep, hnesting⟩ := h
  ⟨deep, hdeep.trans hpart, hnesting⟩

theorem HoldsDeep.of_cons {c : Char} {cs : List Char} (hc : isBare c = true)
    (h : HoldsDeep (c :: cs)) : HoldsDeep cs := by
  obtain ⟨part, hpart, hnesting⟩ := h
  rcases List.infix_cons_iff.1 hpart with hfront | hrest
  · cases part with
    | nil => exact absurd hnesting (Nat.not_lt_zero _)
    | cons d part =>
      obtain ⟨rfl, hprefix⟩ := List.cons_prefix_cons.1 hfront
      refine ⟨part, hprefix.isInfix, ?_⟩
      rwa [nesting, mostOpened_bare hc] at hnesting
  · exact ⟨part, hrest, hnesting⟩

/-! ## What is left -/

/-- What is left of a text has no more containers open at once than the text, however many stand
    open in front of both. -/
def Skips (cs rest : List Char) : Prop :=
  ∀ opened, mostOpened .outside opened rest ≤ mostOpened .outside opened cs

/-- The same where what is left stands behind the end of one more container. -/
def Leaves (cs rest : List Char) : Prop :=
  ∀ opened, mostOpened .outside opened rest ≤ mostOpened .outside (opened + 1) cs

/-- The same between quotes. -/
def Spells (cs rest : List Char) : Prop :=
  ∀ opened, mostOpened .quoted opened rest ≤ mostOpened .quoted opened cs

theorem Skips.refl (cs : List Char) : Skips cs cs :=
  fun _ => Nat.le_refl _

theorem Skips.trans {cs mid rest : List Char} (h : Skips cs mid) (h' : Skips mid rest) :
    Skips cs rest :=
  fun opened => (h' opened).trans (h opened)

theorem Skips.leaves {cs mid rest : List Char} (h : Skips cs mid) (h' : Leaves mid rest) :
    Leaves cs rest :=
  fun opened => (h' opened).trans (h (opened + 1))

theorem Skips.cons {c : Char} (h : isBare c = true) (cs : List Char) : Skips (c :: cs) cs :=
  fun opened => (mostOpened_bare h opened cs).ge

theorem Skips.append {part : List Char} (h : ∀ c ∈ part, isBare c = true) (cs : List Char) :
    Skips (part ++ cs) cs := by
  induction part with
  | nil => exact .refl cs
  | cons c part ih =>
    rw [List.forall_mem_cons] at h
    exact (Skips.cons h.1 _).trans (ih h.2)

theorem Skips.dropWhile {p : Char → Bool} (h : ∀ c, p c = true → isBare c = true)
    (cs : List Char) : Skips cs (cs.dropWhile p) := by
  have hbare : ∀ c ∈ cs.takeWhile p, isBare c = true := fun c hc =>
    h c (List.mem_takeWhile_imp hc)
  have hskips := Skips.append hbare (cs.dropWhile p)
  rwa [List.takeWhile_append_dropWhile] at hskips

/-- A container that is opened and closed again. -/
theorem Leaves.skips {c : Char} {cs rest : List Char} (h : Leaves cs rest)
    (hc : isOpening c = true) : Skips (c :: cs) rest :=
  fun opened => (h opened).trans (mostOpened_opens hc opened cs).ge

theorem Leaves.cons {c : Char} (h : isClosing c = true) (cs : List Char) : Leaves (c :: cs) cs := by
  intro opened
  have hquote : (c == '"') = false := by
    rw [beq_eq_false_iff_ne]
    rintro rfl
    cases h
  have hopens : isOpening c = false := by
    simp only [isClosing, Bool.or_eq_true, beq_iff_eq] at h
    rcases h with rfl | rfl <;> rfl
  rw [mostOpened, hquote, hopens, h]
  exact Nat.le_max_right _ _

theorem isBare_isJsonBlank {c : Char} (h : isJsonBlank c = true) : isBare c = true := by
  simp only [isJsonBlank, Bool.or_eq_true, beq_iff_eq] at h
  rcases h with ((rfl | rfl) | rfl) | rfl <;> rfl

theorem isBare_isAsciiDigit {c : Char} (h : Text.isAsciiDigit c = true) : isBare c = true := by
  simp only [isBare, isOpening, isClosing, Bool.not_eq_true', Bool.or_eq_false_iff,
    beq_eq_false_iff_ne]
  refine ⟨⟨?_, ?_, ?_⟩, ?_, ?_⟩ <;> rintro rfl <;> cases h

theorem skipBlanks_skips (cs : List Char) : Skips cs (skipBlanks cs) :=
  .dropWhile (fun _ => isBare_isJsonBlank) cs

theorem after?_eq_some {word cs rest : List Char} (h : after? word cs = some rest) :
    cs = word ++ rest := by
  simp only [after?, Option.ite_none_right_eq_some, Option.some.injEq] at h
  obtain ⟨more, rfl⟩ := List.isPrefixOf_iff_prefix.1 h.1
  rw [← h.2, List.drop_left]

theorem after?_suffix {word cs rest : List Char} (h : after? word cs = some rest) :
    rest <:+ cs :=
  ⟨word, (after?_eq_some h).symm⟩

theorem wholeDigits_skips (cs : List Char) : Skips cs (wholeDigits cs).2 := by
  unfold wholeDigits
  split
  · exact .cons rfl _
  · exact .dropWhile (fun _ => isBare_isAsciiDigit) _

theorem fractionDigits_skips {cs ds rest : List Char} (h : fractionDigits cs = some (ds, rest)) :
    Skips cs rest := by
  unfold fractionDigits at h
  split at h
  · next r =>
    simp only [Option.ite_none_left_eq_some, Option.some.injEq, Prod.mk.injEq] at h
    obtain ⟨-, -, rfl⟩ := h
    exact (Skips.cons rfl r).trans (.dropWhile (fun _ => isBare_isAsciiDigit) r)
  · cases h

theorem splitSign_skips (cs : List Char) : Skips cs (Numeral.splitSign cs).2 := by
  unfold Numeral.splitSign
  split
  · exact .cons rfl _
  · exact .cons rfl _
  · exact .refl _

theorem exponentPart_skips {cs rest : List Char} {n : Int} (h : exponentPart cs = some (n, rest)) :
    Skips cs rest := by
  unfold exponentPart at h
  split at h
  · next c r =>
    simp only [Option.ite_none_right_eq_some, Option.ite_none_left_eq_some, Option.some.injEq,
      Prod.mk.injEq, Bool.or_eq_true, beq_iff_eq] at h
    obtain ⟨hmark, -, -, rfl⟩ := h
    have hbare : isBare c = true := by rcases hmark with rfl | rfl <;> rfl
    exact ((Skips.cons hbare r).trans (splitSign_skips r)).trans
      (.dropWhile (fun _ => isBare_isAsciiDigit) _)
  · cases h

/-- What is left behind a part that may be missing. -/
theorem behind_skips {part : Option (α × List Char)} {cs : List Char}
    (h : ∀ a rest, part = some (a, rest) → Skips cs rest) :
    Skips cs ((part.map Prod.snd).getD cs) := by
  cases part with
  | none => exact .refl cs
  | some p => exact h p.1 p.2 rfl

theorem Spells.trans {cs mid rest : List Char} (h : Spells cs mid) (h' : Spells mid rest) :
    Spells cs rest :=
  fun opened => (h' opened).trans (h opened)

/-- A backslash takes the character behind it along. -/
theorem Spells.escape (c : Char) (rest : List Char) : Spells ('\\' :: c :: rest) rest :=
  fun _ => Nat.le_refl _

theorem Spells.cons {c : Char} (hquote : c ≠ '"') (hslash : c ≠ '\\') (cs : List Char) :
    Spells (c :: cs) cs :=
  fun opened => (mostOpened_plain hquote hslash opened cs).ge

theorem Spells.hexDigit {c : Char} {n : Nat} (h : Numeral.digitValue? 16 c = some n)
    (cs : List Char) : Spells (c :: cs) cs := by
  refine .cons ?_ ?_ cs <;> rintro rfl <;> cases h

theorem hexFour?_spells {cs rest : List Char} {n : Nat} (h : hexFour? cs = some (n, rest)) :
    Spells cs rest := by
  unfold hexFour? at h
  split at h
  · next a b c d r =>
    simp only [Option.bind_eq_bind, Option.bind_eq_some_iff, Option.some.injEq, Prod.mk.injEq] at h
    obtain ⟨_, ha, _, hb, _, hc, _, hd, -, rfl⟩ := h
    exact (((Spells.hexDigit ha _).trans (.hexDigit hb _)).trans (.hexDigit hc _)).trans
      (.hexDigit hd r)
  · cases h

theorem lowHalf?_spells {cs rest : List Char} {n : Nat} (h : lowHalf? cs = some (n, rest)) :
    Spells cs rest := by
  unfold lowHalf? at h
  split at h
  · next r =>
    simp only [Option.bind_eq_bind, Option.bind_eq_some_iff, Option.ite_none_right_eq_some,
      Option.some.injEq, Prod.mk.injEq] at h
    obtain ⟨⟨low, rest'⟩, hhex, -, -, rfl⟩ := h
    exact (Spells.escape 'u' r).trans (hexFour?_spells hhex)
  · cases h

theorem unicodeEscape?_spells {cs rest : List Char} {c : Char}
    (h : unicodeEscape? cs = some (c, rest)) : Spells cs rest := by
  unfold unicodeEscape? at h
  obtain ⟨⟨code, r⟩, hhex, h⟩ := Option.bind_eq_some_iff.1 h
  have hr := hexFour?_spells hhex
  dsimp only at h
  split at h
  · split at h
    · next low r' hlow =>
      simp only [Option.some.injEq, Prod.mk.injEq] at h
      exact h.2 ▸ hr.trans (lowHalf?_spells hlow)
    · simp only [Option.some.injEq, Prod.mk.injEq] at h
      exact h.2 ▸ hr
  · simp only [Option.some.injEq, Prod.mk.injEq] at h
    exact h.2 ▸ hr

/-- An escape is one with digits or a single character. -/
theorem escape?_cases {cs rest : List Char} {c : Char} (h : escape? cs = some (c, rest)) :
    (∃ r, cs = 'u' :: r ∧ unicodeEscape? r = some (c, rest)) ∨ ∃ d, cs = d :: rest := by
  unfold escape? at h
  split at h
  · next r => exact .inl ⟨r, rfl, h⟩
  · next d r _ =>
    have hrest : r = rest := by
      repeat' split at h
      all_goals simp_all
    exact .inr ⟨d, hrest ▸ rfl⟩
  · cases h

theorem escape?_spells {cs rest : List Char} {c : Char} (h : escape? cs = some (c, rest)) :
    Spells ('\\' :: cs) rest := by
  rcases escape?_cases h with ⟨r, rfl, h⟩ | ⟨d, rfl⟩
  · exact (Spells.escape 'u' r).trans (unicodeEscape?_spells h)
  · exact .escape d rest

/-! ## Texts and scalars -/

theorem textBody_ensures (fuel : Nat) (cs : List Char) :
    Ensures (textBody fuel cs) (fun r => Skips ('"' :: cs) r.2) (fun f => f = .malformed) := by
  induction fuel generalizing cs with
  | zero => rfl
  | succ fuel ih =>
    cases cs with
    | nil => rfl
    | cons c rest =>
      -- What is spelled between the quotes is read on as if a quote stood right in front of it.
      have hspells : ∀ {left : List Char}, Spells (c :: rest) left →
          Ensures (textBody fuel left) (fun r => Skips ('"' :: c :: rest) r.2)
            (fun f => f = .malformed) :=
        fun hleft => (ih _).imp_ok fun r hr opened => (hr opened).trans (hleft opened)
      rw [textBody]
      split_ifs with hquote hslash
      · obtain rfl := beq_iff_eq.1 hquote
        exact fun opened => Nat.le_refl _
      · obtain rfl := beq_iff_eq.1 hslash
        split
        · next d r hescape => exact (hspells (escape?_spells hescape)).bind fun a ha => ha
        · rfl
      · rfl
      · exact (hspells (.cons (mt beq_iff_eq.2 hquote) (mt beq_iff_eq.2 hslash) rest)).bind
          fun a ha => ha

theorem integerOf_ensures (negative : Bool) (ds : List Char) :
    Ensures (integerOf negative ds) (fun v => v.isWellKeyed = true) fun f => f.isValue = true := by
  unfold integerOf
  split
  · rfl
  · split <;> rfl

theorem number_ensures (cs : List Char) :
    Ensures (number cs) (fun r => r.1.isWellKeyed = true ∧ Skips cs r.2)
      (fun f => f.isValue = true) := by
  unfold number
  split
  next negative body hbody =>
  have hbody : Skips cs body := by
    split at hbody <;> cases hbody
    · exact .cons rfl _
    · exact .refl _
  split
  next whole rest hwhole =>
  have hrest : Skips cs rest := by
    have hwhole := wholeDigits_skips body
    simp only [*] at hwhole
    exact hbody.trans hwhole
  have hleft := hrest.trans ((behind_skips fun _ _ => fractionDigits_skips).trans
    (behind_skips fun _ _ => exponentPart_skips))
  dsimp only
  split_ifs
  · rfl
  · exact (integerOf_ensures negative whole).bind fun v hv => ⟨hv, hleft⟩
  · exact ⟨rfl, hleft⟩

theorem words_ensures {w : List Char × Value} (h : w ∈ words) :
    w.2.isWellKeyed = true ∧ ∀ c ∈ w.1, isBare c = true := by
  simp only [words, List.mem_cons, List.not_mem_nil, or_false] at h
  rcases h with rfl | rfl | rfl | rfl | rfl | rfl <;>
    exact ⟨rfl, by simp [isBare, isOpening, isClosing]⟩

theorem scalar_ensures (cs : List Char) :
    Ensures (scalar cs) (fun r => r.1.isWellKeyed = true ∧ Skips cs r.2)
      (fun f => f.isValue = true) := by
  unfold scalar
  split
  · next r hr =>
    obtain ⟨w, hw, hafter⟩ := List.exists_of_findSome?_eq_some hr
    obtain ⟨rest, hrest, rfl⟩ := Option.map_eq_some_iff.1 hafter
    obtain ⟨hkeyed, hbare⟩ := words_ensures hw
    exact ⟨hkeyed, after?_eq_some hrest ▸ .append hbare rest⟩
  · exact number_ensures cs

/-! ## Values -/

/-- Why a text inside of `depth` containers is not read: it is malformed or has an integer that
    cannot be used, or it is nested too deeply. -/
def Refused (depth : Nat) (cs : List Char) (f : Fault) : Prop :=
  f.isValue = true ∨
    f = .tooDeep ∧ ∀ opened, maxDepth + opened < depth + mostOpened .outside opened cs

theorem Refused.of_skips {depth : Nat} {cs rest : List Char} {f : Fault}
    (h : Refused depth rest f) (hrest : Skips cs rest) : Refused depth cs f := by
  refine h.imp_right fun ⟨hf, hdepth⟩ => ⟨hf, fun opened => ?_⟩
  exact (hdepth opened).trans_le (Nat.add_le_add_left (hrest opened) depth)

theorem Refused.of_limit {depth : Nat} {c : Char} {cs : List Char} (hc : isOpening c = true)
    (h : maxDepth ≤ depth) : Refused depth (c :: cs) .tooDeep := by
  refine .inr ⟨rfl, fun opened => ?_⟩
  have hopened := le_mostOpened .outside (opened + 1) cs
  rw [mostOpened_opens hc]
  omega

theorem Refused.of_opened {depth : Nat} {c : Char} {cs : List Char} {f : Fault}
    (h : Refused (depth + 1) cs f) (hc : isOpening c = true) : Refused depth (c :: cs) f := by
  refine h.imp_right fun ⟨hf, hdepth⟩ => ⟨hf, fun opened => ?_⟩
  have hinner := hdepth (opened + 1)
  rw [mostOpened_opens hc]
  omega

/-- What a reader with some fuel gives: values without repeated keys, and what is left behind the
    value or behind the end of the container. -/
structure Reads (fuel : Nat) : Prop where
  value : ∀ depth cs,
    Ensures (value fuel depth cs) (fun r => r.1.isWellKeyed = true ∧ Skips cs r.2)
      (Refused depth cs)
  items : ∀ depth cs,
    Ensures (items fuel depth cs) (fun r => wellKeyedItems r.1 = true ∧ Leaves cs r.2)
      (Refused depth cs)
  fields : ∀ depth cs,
    Ensures (fields fuel depth cs)
      (fun r => (∀ e ∈ r.1, e.1.hashable = true ∧ e.2.isWellKeyed = true) ∧ Leaves cs r.2)
      (Refused depth cs)

namespace Reads

variable {fuel : Nat}

theorem value_succ (h : Reads fuel) (depth : Nat) (cs : List Char) :
    Ensures (Json.value (fuel + 1) depth cs) (fun r => r.1.isWellKeyed = true ∧ Skips cs r.2)
      (Refused depth cs) := by
  unfold Json.value
  split
  · next rest =>
    refine ((textBody_ensures fuel rest).imp (fun _ h => h) fun f hf => .inl (hf ▸ rfl)).bind ?_
    exact fun r hr => ⟨rfl, hr⟩
  · next rest =>
    split_ifs with hdepth
    · exact .of_limit rfl hdepth
    · have hblanks := skipBlanks_skips rest
      split
      · next r hr =>
        rw [hr] at hblanks
        exact ⟨rfl, (hblanks.leaves (.cons rfl r)).skips rfl⟩
      · refine ((h.items (depth + 1) _).imp (fun _ h => h) fun f hf =>
          (hf.of_skips hblanks).of_opened rfl).bind ?_
        exact fun r hr => ⟨hr.1, (hblanks.leaves hr.2).skips rfl⟩
  · next rest =>
    split_ifs with hdepth
    · exact .of_limit rfl hdepth
    · have hblanks := skipBlanks_skips rest
      split
      · next r hr =>
        rw [hr] at hblanks
        exact ⟨rfl, (hblanks.leaves (.cons rfl r)).skips rfl⟩
      · refine ((h.fields (depth + 1) _).imp (fun _ h => h) fun f hf =>
          (hf.of_skips hblanks).of_opened rfl).bind ?_
        exact fun r hr => ⟨wellKeyedEntries_update rfl hr.1, (hblanks.leaves hr.2).skips rfl⟩
  · exact (scalar_ensures cs).imp (fun _ h => h) fun f hf => .inl hf

theorem items_succ (h : Reads fuel) (depth : Nat) (cs : List Char) :
    Ensures (Json.items (fuel + 1) depth cs) (fun r => wellKeyedItems r.1 = true ∧ Leaves cs r.2)
      (Refused depth cs) := by
  unfold Json.items
  refine (h.value depth cs).bind fun ⟨x, rest⟩ ⟨hx, hrest⟩ => ?_
  have hblanks := hrest.trans (skipBlanks_skips rest)
  dsimp only
  split
  · next r hr =>
    rw [hr] at hblanks
    exact ⟨wellKeyedItems_iff.2 (by simpa using hx), hblanks.leaves (.cons rfl r)⟩
  · next r hr =>
    rw [hr] at hblanks
    have hr' := (hblanks.trans (.cons rfl r)).trans (skipBlanks_skips r)
    refine ((h.items depth (skipBlanks r)).imp (fun _ h => h) fun f hf => hf.of_skips hr').bind ?_
    rintro ⟨xs, left⟩ ⟨hxs, hleft⟩
    refine ⟨?_, hr'.leaves hleft⟩
    simp [wellKeyedItems, hx, hxs]
  · exact .inl rfl

theorem fields_succ (h : Reads fuel) (depth : Nat) (cs : List Char) :
    Ensures (Json.fields (fuel + 1) depth cs)
      (fun r => (∀ e ∈ r.1, e.1.hashable = true ∧ e.2.isWellKeyed = true) ∧ Leaves cs r.2)
      (Refused depth cs) := by
  unfold Json.fields
  split
  · next cs =>
    refine ((textBody_ensures fuel cs).imp (fun _ h => h) fun f hf => .inl (hf ▸ rfl)).bind ?_
    rintro ⟨k, r⟩ hr
    have hr := hr.trans (skipBlanks_skips r)
    dsimp only
    split
    · next r' hr' =>
      rw [hr'] at hr
      have hr := (hr.trans (.cons rfl r')).trans (skipBlanks_skips r')
      refine ((h.value depth (skipBlanks r')).imp (fun _ h => h) fun f hf =>
        hf.of_skips hr).bind ?_
      rintro ⟨v, left⟩ ⟨hv, hleft⟩
      have hleft := (hr.trans hleft).trans (skipBlanks_skips left)
      dsimp only
      split
      · next left' hleft' =>
        rw [hleft'] at hleft
        exact ⟨List.forall_mem_singleton.2 ⟨rfl, hv⟩, hleft.leaves (.cons rfl left')⟩
      · next left' hleft' =>
        rw [hleft'] at hleft
        have hleft := (hleft.trans (.cons rfl left')).trans (skipBlanks_skips left')
        refine ((h.fields depth (skipBlanks left')).imp (fun _ h => h) fun f hf =>
          hf.of_skips hleft).bind ?_
        rintro ⟨es, last⟩ ⟨hes, hlast⟩
        exact ⟨List.forall_mem_cons.2 ⟨⟨rfl, hv⟩, hes⟩, hleft.leaves hlast⟩
      · exact .inl rfl
    · exact .inl rfl
  · exact .inl rfl

end Reads

theorem reads (fuel : Nat) : Reads fuel := by
  induction fuel with
  | zero => exact ⟨fun _ _ => .inl rfl, fun _ _ => .inl rfl, fun _ _ => .inl rfl⟩
  | succ fuel ih => exact ⟨ih.value_succ, ih.items_succ, ih.fields_succ⟩

/-- A value that is read holds no key twice in an object, and a text that is not read is malformed,
    has an integer that cannot be used or is nested too deeply. -/
theorem read_ensures (cs : List Char) :
    Ensures (read cs) (fun v => v.isWellKeyed = true) fun f =>
      f.isValue = true ∨ f = .tooDeep ∧ maxDepth < nesting cs := by
  have h := (reads (cs.length + 1)).value 0 (skipBlanks cs)
  refine Ensures.bind (h.imp (fun _ h => h) fun f hf => ?_) fun ⟨v, rest⟩ ⟨hv, _⟩ => ?_
  · refine (hf.of_skips (skipBlanks_skips cs)).imp_right fun ⟨hf, hdepth⟩ => ⟨hf, ?_⟩
    simpa [nesting] using hdepth 0
  · dsimp only
    split
    · exact hv
    · exact .inl rfl

end ApiJourney.Json
