-- SUMMARY: Texts written with the escapes of either style, and that they are read back.
import ApiJourney.Json.Printer
import ApiJourney.Proofs.Json.Reader

/-!
# Escapes

A text is written character by character, each as itself or as an escape that stands for it, and
is read back up to its closing quote. Characters above the first plane are escaped in two halves,
which a reader joins, and so it would join halves that are characters of their own: where
everything above ASCII is escaped, a text must not have a high half in front of a low one.
-/

namespace ApiJourney.Json

open Text

/-! ## Units -/

/-- One more digit is the last one of the number. -/
theorem hex_succ {width : Nat} (hwidth : 0 < width) (n : Nat) :
    hex (width + 1) n = hex width (n / 16) ++ [(n % 16).digitChar] := by
  obtain ⟨width, rfl⟩ := Nat.exists_eq_add_one.2 hwidth
  by_cases hn : n < 16
  · rw [hex, hex, Nat.toDigits_of_lt_base hn, Nat.div_eq_of_lt hn, Nat.mod_eq_of_lt hn,
      Nat.toDigits_zero]
    simp [List.replicate_succ']
  · rw [hex, hex, Nat.toDigits_of_base_le (by decide) (Nat.not_lt.1 hn)]
    simp

theorem hex_one {n : Nat} (h : n < 16) : hex 1 n = [n.digitChar] := by
  rw [hex, Nat.toDigits_of_lt_base h]
  rfl

theorem hex_four {n : Nat} (h : n < 0x10000) :
    hex 4 n = [(n / 16 / 16 / 16).digitChar, (n / 16 / 16 % 16).digitChar,
      (n / 16 % 16).digitChar, (n % 16).digitChar] := by
  rw [hex_succ (by decide), hex_succ (by decide), hex_succ (by decide), hex_one (by omega)]
  rfl

theorem digitValue?_digitChar {d : Nat} (h : d < 16) :
    Numeral.digitValue? 16 d.digitChar = some d := by
  interval_cases d <;> rfl

theorem hexFour?_hex {n : Nat} (h : n < 0x10000) (rest : List Char) :
    hexFour? (hex 4 n ++ rest) = some (n, rest) := by
  rw [hex_four h]
  simp only [List.cons_append, List.nil_append, hexFour?, Option.bind_eq_bind]
  rw [digitValue?_digitChar (by omega), digitValue?_digitChar (by omega),
    digitValue?_digitChar (by omega), digitValue?_digitChar (by omega)]
  simp only [Option.bind_some]
  congr 2
  omega

/-! ## Codes -/

theorem toNat_char (c : Char) : c.toNat < 0xD800 ∨ 0xDFFF < c.toNat ∧ c.toNat < 0x110000 :=
  c.valid

theorem codeOf_lt (c : Char) : codeOf c < 0x110000 := by
  have hc := toNat_char c
  unfold codeOf
  split_ifs <;> omega

/-- A character is the one that holds its code. -/
theorem ofCode_codeOf (c : Char) : ofCode (codeOf c) = c := by
  have hc := toNat_char c
  by_cases hhalf : 0x10F800 ≤ c.toNat
  · have hcode : codeOf c = c.toNat - surrogateOffset := by
      rw [codeOf, if_pos]
      simp
      omega
    have hback : c.toNat - surrogateOffset + surrogateOffset = c.toNat :=
      Nat.sub_add_cancel (le_trans (by decide) hhalf)
    have hoffset : surrogateOffset = 0x102000 := rfl
    have hsurrogate : isSurrogate (c.toNat - surrogateOffset) = true := by
      simp only [isSurrogate, Bool.and_eq_true, decide_eq_true_eq]
      omega
    rw [hcode, ofCode, if_pos hsurrogate, hback, Char.ofNat_toNat]
  · have hcode : codeOf c = c.toNat := by
      rw [codeOf, if_neg]
      simp
      omega
    have hsurrogate : isSurrogate c.toNat = false := by
      simp [isSurrogate]
      omega
    rw [hcode, ofCode, hsurrogate, if_neg Bool.false_ne_true, Char.ofNat_toNat]

/-- Only a character of its own has a code above the first plane. -/
theorem ofNat_codeOf {c : Char} (h : 0x10000 ≤ codeOf c) : Char.ofNat (codeOf c) = c := by
  have hsurrogate : isSurrogate (codeOf c) = false := by
    simp [isSurrogate]
    omega
  have hback := ofCode_codeOf c
  rwa [ofCode, hsurrogate, if_neg Bool.false_ne_true] at hback

/-- Whether a character holds the first half of a pair. -/
def isHighHalf (c : Char) : Bool :=
  0xD800 ≤ codeOf c && codeOf c ≤ 0xDBFF

/-- Whether a character holds the second half of a pair. -/
def isLowHalf (c : Char) : Bool :=
  0xDC00 ≤ codeOf c && codeOf c ≤ 0xDFFF

theorem unitEscape_append (unit : Nat) (rest : List Char) :
    unitEscape unit ++ rest = '\\' :: 'u' :: (hex 4 unit ++ rest) := rfl

/-- The escape of a unit is read as the character that holds it, unless it is a first half that
    the second one follows. -/
theorem unicodeEscape?_unit {n : Nat} (h : n < 0x10000) (rest : List Char)
    (hnext : 0xD800 ≤ n → n ≤ 0xDBFF → lowHalf? rest = none) :
    unicodeEscape? (hex 4 n ++ rest) = some (ofCode n, rest) := by
  rw [unicodeEscape?, hexFour?_hex h, Option.bind_eq_bind, Option.bind_some]
  dsimp only
  split_ifs with hhigh
  · simp only [Bool.and_eq_true, decide_eq_true_eq] at hhigh
    rw [hnext hhigh.1 hhigh.2]
  · rfl

theorem lowHalf?_unit {n : Nat} (h : 0xDC00 ≤ n) (h' : n ≤ 0xDFFF) (rest : List Char) :
    lowHalf? (unitEscape n ++ rest) = some (n, rest) := by
  rw [unitEscape_append, lowHalf?, hexFour?_hex (by omega), Option.bind_eq_bind, Option.bind_some]
  refine if_pos ?_
  simp only [Bool.and_eq_true, decide_eq_true_eq]
  exact ⟨h, h'⟩

/-- The escapes of two halves are read as the character that they make up. -/
theorem unicodeEscape?_pair {high low : Nat} (hhigh : 0xD800 ≤ high ∧ high ≤ 0xDBFF)
    (hlow : 0xDC00 ≤ low ∧ low ≤ 0xDFFF) (rest : List Char) :
    unicodeEscape? (hex 4 high ++ (unitEscape low ++ rest)) =
      some (Char.ofNat (joinHalves high low), rest) := by
  rw [unicodeEscape?, hexFour?_hex (by omega), Option.bind_eq_bind, Option.bind_some]
  dsimp only
  rw [lowHalf?_unit hlow.1 hlow.2, if_pos]
  simp only [Bool.and_eq_true, decide_eq_true_eq]
  exact hhigh

/-- The escape of a code is read as the character. -/
theorem unicodeEscape?_codeEscape (c : Char) : ∃ escape,
    codeEscape (codeOf c) = '\\' :: 'u' :: escape ∧
    ∀ rest, (isHighHalf c = true → lowHalf? rest = none) →
      unicodeEscape? (escape ++ rest) = some (c, rest) := by
  have hlt := codeOf_lt c
  unfold codeEscape
  split_ifs with hplane
  · refine ⟨hex 4 (codeOf c), rfl, fun rest hnext => ?_⟩
    have hunit := unicodeEscape?_unit hplane rest fun hlow hhigh =>
      hnext (by simp [isHighHalf, hlow, hhigh])
    rwa [ofCode_codeOf] at hunit
  · refine ⟨_, unitEscape_append _ _, fun rest _ => ?_⟩
    have hjoined : joinHalves (0xD800 + (codeOf c - 0x10000) / 0x400)
        (0xDC00 + (codeOf c - 0x10000) % 0x400) = codeOf c := by
      unfold joinHalves
      omega
    rw [List.append_assoc, unicodeEscape?_pair (by omega) (by omega), hjoined,
      ofNat_codeOf (by omega)]

/-! ## Characters -/

variable {s : Style}

theorem codeOf_control {c : Char} (h : c.toNat < 32) : codeOf c = c.toNat :=
  if_neg (by simp; omega)

/-- The characters that a backslash and one more character stand for, with that one. -/
def shortEscapes : List (Char × Char) :=
  [('"', '"'), ('\\', '\\'), ('\n', 'n'), ('\r', 'r'), ('\t', 't'), (Char.ofNat 12, 'f'),
    (Char.ofNat 8, 'b')]

/-- How a character is written in a text. -/
inductive CharText (s : Style) (c : Char) : List Char → Prop where
  | short {d : Char} : (c, d) ∈ shortEscapes → CharText s c ['\\', d]
  | code : c.toNat < 32 ∨ s.asciiOnly = true ∧ 127 ≤ c.toNat →
      CharText s c (codeEscape (codeOf c))
  | plain : c ≠ '"' → c ≠ '\\' → 32 ≤ c.toNat → CharText s c [c]

theorem charText_escapeChar (s : Style) (c : Char) : CharText s c (escapeChar s c) := by
  have hofNat : ∀ {n : Nat}, (c.toNat == n) = true → c = Char.ofNat n := fun hn => by
    rw [← beq_iff_eq.1 hn, Char.ofNat_toNat]
  unfold escapeChar
  split_ifs with hquote hslash hline hreturn htab hfeed hback hcode
  · obtain rfl : c = '"' := beq_iff_eq.1 hquote
    exact .short (by decide)
  · obtain rfl : c = '\\' := beq_iff_eq.1 hslash
    exact .short (by decide)
  · exact .short (beq_iff_eq.1 hline ▸ by decide)
  · exact .short (beq_iff_eq.1 hreturn ▸ by decide)
  · exact .short (beq_iff_eq.1 htab ▸ by decide)
  · exact .short (hofNat hfeed ▸ by decide)
  · exact .short (hofNat hback ▸ by decide)
  · simp only [Bool.or_eq_true, Bool.and_eq_true, decide_eq_true_eq] at hcode
    exact .code hcode
  · refine .plain (by simpa using hquote) (by simpa using hslash) ?_
    simp only [Bool.or_eq_true, decide_eq_true_eq, not_or, not_lt] at hcode
    exact hcode.1

theorem escape?_short {c d : Char} (h : (c, d) ∈ shortEscapes) (rest : List Char) :
    escape? (d :: rest) = some (c, rest) := by
  simp only [shortEscapes, List.mem_cons, Prod.mk.injEq, List.not_mem_nil, or_false] at h
  rcases h with ⟨rfl, rfl⟩ | ⟨rfl, rfl⟩ | ⟨rfl, rfl⟩ | ⟨rfl, rfl⟩ | ⟨rfl, rfl⟩ | ⟨rfl, rfl⟩ |
    ⟨rfl, rfl⟩ <;> rfl

theorem textBody_escape {escape rest : List Char} {c : Char}
    (h : escape? (escape ++ rest) = some (c, rest)) (fuel : Nat) :
    textBody (fuel + 1) ('\\' :: escape ++ rest) =
      (textBody fuel rest).map fun r => (c :: r.1, r.2) := by
  rw [List.cons_append, textBody, if_neg (by decide), if_pos (by decide), h]
  cases h : textBody fuel rest <;> simp [h, bind, Except.bind, Except.map]

/-- A written character is read. -/
theorem textBody_charText {c : Char} {t rest : List Char} (ht : CharText s c t)
    (h : isHighHalf c = true → lowHalf? rest = none) (fuel : Nat) :
    textBody (fuel + 1) (t ++ rest) = (textBody fuel rest).map fun r => (c :: r.1, r.2) := by
  cases ht with
  | @short d hshort => exact textBody_escape (escape?_short hshort rest) fuel
  | code _ =>
    obtain ⟨escape, hwritten, hread⟩ := unicodeEscape?_codeEscape c
    have hescape : escape? ('u' :: escape ++ rest) = some (c, rest) := hread rest h
    rw [hwritten]
    exact textBody_escape hescape fuel
  | plain hquote hslash hcontrol =>
    rw [List.singleton_append, textBody, if_neg (by simpa using hquote),
      if_neg (by simpa using hslash), if_neg (by omega)]
    cases textBody fuel rest <;> rfl

theorem CharText.length_pos {c : Char} {t : List Char} (h : CharText s c t) : 0 < t.length := by
  cases h with
  | short _ => exact Nat.zero_lt_two
  | code _ =>
    obtain ⟨escape, hwritten, -⟩ := unicodeEscape?_codeEscape c
    simp [hwritten]
  | plain _ _ _ => exact Nat.zero_lt_one

/-- The escape of a unit does not stand for a second half, unless the unit is one. -/
theorem lowHalf?_unitEscape {n : Nat} (h : n < 0x10000) (hhalf : n < 0xDC00 ∨ 0xDFFF < n)
    (rest : List Char) : lowHalf? (unitEscape n ++ rest) = none := by
  rw [unitEscape_append, lowHalf?, hexFour?_hex h, Option.bind_eq_bind, Option.bind_some]
  refine if_neg ?_
  simp only [Bool.and_eq_true, decide_eq_true_eq]
  omega

/-- No second half stands at the front of a written character, unless it is that half. -/
theorem CharText.lowHalf?_eq {c : Char} {t : List Char} (ht : CharText s c t)
    (h : s.asciiOnly = true → isLowHalf c = false) (rest : List Char) :
    lowHalf? (t ++ rest) = none := by
  cases ht with
  | @short d hshort =>
    have hd : ∀ p ∈ shortEscapes, p.2 ≠ 'u' := by decide
    have hother := hd _ hshort
    simp [lowHalf?, hother]
  | code hcode =>
    have hlt := codeOf_lt c
    unfold codeEscape
    split_ifs with hplane
    · refine lowHalf?_unitEscape hplane ?_ rest
      rcases hcode with hcontrol | ⟨hascii, -⟩
      · rw [codeOf_control hcontrol]
        omega
      · have hlow := h hascii
        simp only [isLowHalf, Bool.and_eq_false_iff, decide_eq_false_iff_not] at hlow
        omega
    · rw [List.append_assoc]
      exact lowHalf?_unitEscape (by omega) (by omega) _
  | plain _ hslash _ => simp [lowHalf?, hslash]

/-! ## Texts -/

/-- No first half of a pair stands in front of a second one where both are escaped. -/
def Unpaired (s : Style) (cs : List Char) : Prop :=
  s.asciiOnly = true → cs.IsChain fun c d => isHighHalf c = true → isLowHalf d = false

theorem unpaired_compact (cs : List Char) : Unpaired compact cs := nofun

theorem Unpaired.tail {c : Char} {cs : List Char} (h : Unpaired s (c :: cs)) : Unpaired s cs :=
  fun hascii => (h hascii).tail

/-- Behind a first half no second one is read. -/
theorem Unpaired.lowHalf?_behind {c : Char} {cs : List Char} (h : Unpaired s (c :: cs))
    (hc : isHighHalf c = true) (rest : List Char) :
    lowHalf? (cs.flatMap (escapeChar s) ++ '"' :: rest) = none := by
  cases cs with
  | nil => rfl
  | cons d cs =>
    rw [List.flatMap_cons, List.append_assoc]
    exact (charText_escapeChar s d).lowHalf?_eq
      (fun hascii => (List.isChain_cons_cons.1 (h hascii)).1 hc) _

/-- A text is read up to its closing quote. -/
theorem textBody_written {cs : List Char} (hcs : Unpaired s cs) {fuel : Nat}
    (h : (cs.flatMap (escapeChar s)).length < fuel) (rest : List Char) :
    textBody fuel (cs.flatMap (escapeChar s) ++ '"' :: rest) = .ok (cs, rest) := by
  induction cs generalizing fuel with
  | nil =>
    obtain ⟨fuel, rfl⟩ := Nat.exists_eq_add_one_of_ne_zero (Nat.ne_zero_of_lt h)
    rfl
  | cons c cs ih =>
    have hpos := (charText_escapeChar s c).length_pos
    rw [List.flatMap_cons, List.length_append] at h
    obtain ⟨fuel, rfl⟩ := Nat.exists_eq_add_one_of_ne_zero (Nat.ne_zero_of_lt h)
    rw [List.flatMap_cons, List.append_assoc,
      textBody_charText (charText_escapeChar s c) fun hc => hcs.lowHalf?_behind hc rest,
      ih hcs.tail (by omega)]
    rfl

theorem writeText_append (s : Style) (cs rest : List Char) :
    writeText s cs ++ rest = '"' :: (cs.flatMap (escapeChar s) ++ '"' :: rest) := by
  simp [writeText]

theorem length_writeText (s : Style) (cs : List Char) :
    (writeText s cs).length = (cs.flatMap (escapeChar s)).length + 2 := by
  simp [writeText]

/-! ## Texts that are cut off -/

/-- Whether a text has a quote that no backslash in front of it escapes. -/
def closes : Bool → List Char → Bool
  | _, [] => false
  | true, _ :: rest => closes false rest
  | false, c :: rest => c == '"' || closes (c == '\\') rest

theorem closes_slash (c : Char) (rest : List Char) :
    closes false ('\\' :: c :: rest) = closes false rest := by
  cases rest <;> rfl

theorem closes_plain {c : Char} (hquote : c ≠ '"') (hslash : c ≠ '\\') (rest : List Char) :
    closes false (c :: rest) = closes false rest := by
  rw [closes, beq_false_of_ne hquote, beq_false_of_ne hslash, Bool.false_or]

theorem closes_append_of_closes {escaped : Bool} {cs : List Char} (h : closes escaped cs = true)
    (rest : List Char) : closes escaped (cs ++ rest) = true := by
  fun_induction closes escaped cs with
  | case1 => cases h
  | case2 c cs ih => exact ih h
  | case3 c cs ih =>
    rw [List.cons_append, closes, Bool.or_eq_true]
    exact (Bool.or_eq_true _ _ ▸ h).imp_right ih

theorem ne_of_digitValue? {c : Char} {n : Nat} (h : Numeral.digitValue? 16 c = some n) :
    c ≠ '"' ∧ c ≠ '\\' := by
  refine ⟨?_, ?_⟩ <;> rintro rfl <;> cases h

/-- The digits of an escape neither close a text nor escape what follows. -/
theorem closes_hexFour? {cs rest : List Char} {n : Nat} (h : hexFour? cs = some (n, rest)) :
    closes false cs = closes false rest := by
  unfold hexFour? at h
  split at h
  · simp only [Option.bind_eq_bind, Option.bind_eq_some_iff, Option.some.injEq, Prod.mk.injEq] at h
    obtain ⟨_, ha, _, hb, _, hc, _, hd, -, rfl⟩ := h
    rw [closes_plain (ne_of_digitValue? ha).1 (ne_of_digitValue? ha).2,
      closes_plain (ne_of_digitValue? hb).1 (ne_of_digitValue? hb).2,
      closes_plain (ne_of_digitValue? hc).1 (ne_of_digitValue? hc).2,
      closes_plain (ne_of_digitValue? hd).1 (ne_of_digitValue? hd).2]
  · cases h

theorem closes_unit (unit : List Char) : closes false ('\\' :: 'u' :: unit) = closes false unit :=
  closes_slash 'u' unit

theorem closes_lowHalf? {cs rest : List Char} {n : Nat} (h : lowHalf? cs = some (n, rest)) :
    closes false cs = closes false rest := by
  unfold lowHalf? at h
  split at h
  · simp only [Option.bind_eq_bind, Option.bind_eq_some_iff, Option.ite_none_right_eq_some,
      Option.some.injEq, Prod.mk.injEq] at h
    obtain ⟨⟨low, rest'⟩, hhex, -, -, rfl⟩ := h
    rw [closes_unit, closes_hexFour? hhex]
  · cases h

theorem closes_unicodeEscape? {cs rest : List Char} {c : Char}
    (h : unicodeEscape? cs = some (c, rest)) : closes false cs = closes false rest := by
  unfold unicodeEscape? at h
  obtain ⟨⟨code, r⟩, hhex, h⟩ := Option.bind_eq_some_iff.1 h
  rw [closes_hexFour? hhex]
  dsimp only at h
  split at h
  · split at h
    · next low r' hlow =>
      simp only [Option.some.injEq, Prod.mk.injEq] at h
      exact h.2 ▸ closes_lowHalf? hlow
    · simp only [Option.some.injEq, Prod.mk.injEq] at h
      rw [h.2]
  · simp only [Option.some.injEq, Prod.mk.injEq] at h
    rw [h.2]

/-- An escape is passed over as a whole. -/
theorem closes_escape? {cs rest : List Char} {c : Char} (h : escape? cs = some (c, rest)) :
    closes false ('\\' :: cs) = closes false rest := by
  rcases escape?_cases h with ⟨r, rfl, h⟩ | ⟨d, rfl⟩
  · rw [closes_slash, closes_unicodeEscape? h]
  · exact closes_slash d rest

/-- A text is read only up to a quote that closes it. -/
theorem closes_of_textBody {fuel : Nat} {cs : List Char} {r : List Char × List Char}
    (h : textBody fuel cs = .ok r) : closes false cs = true := by
  induction fuel generalizing cs r with
  | zero => cases h
  | succ fuel ih =>
    cases cs with
    | nil => cases h
    | cons c rest =>
      rw [textBody] at h
      split_ifs at h with hquote hslash hcontrol
      · simp [closes, hquote]
      · split at h
        · next d r hescape =>
          obtain ⟨a, ha, -⟩ := bind_eq_ok.1 h
          rw [beq_iff_eq.1 hslash, closes_escape? hescape]
          exact ih ha
        · cases h
      · obtain ⟨a, ha, -⟩ := bind_eq_ok.1 h
        rw [closes_plain (by simpa using hquote) (by simpa using hslash)]
        exact ih ha

theorem closes_charText {c : Char} {t : List Char} (h : CharText s c t) (rest : List Char) :
    closes false (t ++ rest) = closes false rest := by
  have hunit : ∀ {n : Nat}, n < 0x10000 → ∀ rest,
      closes false (unitEscape n ++ rest) = closes false rest := fun hn rest => by
    rw [unitEscape_append, closes_unit, closes_hexFour? (hexFour?_hex hn rest)]
  cases h with
  | short _ => exact closes_slash _ rest
  | code _ =>
    have hlt := codeOf_lt c
    unfold codeEscape
    split_ifs with hplane
    · exact hunit hplane rest
    · rw [List.append_assoc, hunit (by omega), hunit (by omega)]
  | plain hquote hslash _ => exact closes_plain hquote hslash rest

/-- What is written of a text does not close it. -/
theorem closes_written (s : Style) (cs : List Char) :
    closes false (cs.flatMap (escapeChar s)) = false := by
  induction cs with
  | nil => rfl
  | cons c cs ih => rw [List.flatMap_cons, closes_charText (charText_escapeChar s c), ih]

/-- A text that is cut off before its closing quote is not read. -/
theorem textBody_cutOff {cs front : List Char} (h : front <+: cs.flatMap (escapeChar s))
    (fuel : Nat) : textBody fuel front = .error .malformed := by
  have hensures := textBody_ensures fuel front
  -- What is read has a closing quote, also with the rest of the text behind it.
  cases hread : textBody fuel front with
  | error f =>
    rw [hread] at hensures
    exact congrArg _ hensures
  | ok r =>
    obtain ⟨rest, hrest⟩ := h
    have hclosed := closes_append_of_closes (closes_of_textBody hread) rest
    rw [hrest, closes_written] at hclosed
    cases hclosed

end ApiJourney.Json
