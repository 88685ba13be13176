-- SUMMARY: The range of doubles, and the doubles that integers within it are rounded to.
import ApiJourney.Proofs.Number.Rounding

/-!
# The range of doubles

The largest double is an integer. What is cut off a finite double is not beyond it, and every
integer that is not beyond it has a nearest double.

An integer is rounded in units in which it has 53 bits. A whole double that is not below the least
number of so many bits is itself a number of these units, so an integer on one side of a whole
double is not rounded to the other side of it.
-/

namespace ApiJourney.Binary64

open Float.Model Float.Model.UnpackedFloat

/-- A number that is not beyond the largest double, which has 53 bits in units of 2 ^ 971. -/
def InRange (n : Nat) : Prop :=
  ∃ e ≤ 971, n ≤ (2 ^ 53 - 1) * 2 ^ e

theorem InRange.mono {m n : Nat} (h : InRange n) (hle : m ≤ n) : InRange m := by
  obtain ⟨e, he, hn⟩ := h
  exact ⟨e, he, hle.trans hn⟩

/-! ## Doubles within the range -/

theorem magnitude_le {bits : Nat} (h : bits / Nat.pow 2 52 % Nat.pow 2 11 ≠ 2047) :
    (magnitude bits).1 ≤ 2 ^ 53 - 1 ∧ (magnitude bits).2 ≤ 971 := by
  simp only [Nat.pow_eq] at h
  simp only [magnitude, Nat.pow_eq]
  split_ifs <;> dsimp only <;> omega

theorem reading_finite {x : Float} {m e : Int} (h : reading x = .finite m e) :
    m.natAbs ≤ 2 ^ 53 - 1 ∧ e ≤ 971 := by
  unfold reading at h
  dsimp only at h
  split_ifs at h with hfield _ hnegative
  · obtain ⟨hm, he⟩ := magnitude_le hfield
    cases h
    exact ⟨by omega, he⟩
  · obtain ⟨hm, he⟩ := magnitude_le hfield
    cases h
    exact ⟨by omega, he⟩

/-- What is cut off a finite double is not beyond the largest one. -/
theorem inRange_truncate {x : Float} {m e : Int} (h : reading x = .finite m e) :
    InRange (truncate m e).natAbs := by
  obtain ⟨hm, he⟩ := reading_finite h
  refine ⟨e.toNat, by omega, ?_⟩
  unfold truncate
  split_ifs
  · rw [Int.natAbs_mul, Int.natAbs_natCast, Nat.pow_eq]
    exact Nat.mul_le_mul_right _ hm
  · rw [Int.natAbs_tdiv]
    calc m.natAbs / _ ≤ m.natAbs := Nat.div_le_self _ _
      _ ≤ 2 ^ 53 - 1 := hm
      _ ≤ (2 ^ 53 - 1) * 2 ^ e.toNat := Nat.le_mul_of_pos_right _ (Nat.two_pow_pos _)

/-! ## Integers within the range -/

/-- A quotient that is not above an integer is not rounded above it. -/
theorem roundQuotient_le {num den q : Nat} (h : num ≤ q * den) (hden : 0 < den) :
    roundQuotient num den ≤ q := by
  have hle : num / den ≤ q := Nat.div_le_of_le_mul (Nat.mul_comm q den ▸ h)
  rcases Nat.lt_or_eq_of_le hle with hlt | heq
  · unfold roundQuotient
    dsimp only
    split_ifs <;> omega
  · have hexact : num % den = 0 := by
      have hsplit := Nat.div_add_mod num den
      rw [heq, Nat.mul_comm] at hsplit
      omega
    unfold roundQuotient
    simp only [hexact, Nat.mul_zero, hden, if_true]
    exact hle

/-- In units of a power of two of which there are at most 2 ^ 53 below a bound, a number below the
    bound has less than 2 ^ 53 of them. -/
theorem rescale_one_lt {num k : Nat} {exponent : Int} (hk : num < 2 ^ k)
    (hexponent : (k : Int) - 53 ≤ exponent) :
    (rescale num 1 exponent).1 < 2 ^ 53 * (rescale num 1 exponent).2 := by
  unfold rescale
  split_ifs with hpos
  · simp only [Nat.pow_eq, Nat.one_mul]
    calc num < 2 ^ k := hk
      _ ≤ 2 ^ (53 + exponent.toNat) := Nat.pow_le_pow_right (by decide) (by omega)
      _ = 2 ^ 53 * 2 ^ exponent.toNat := Nat.pow_add _ _ _
  · simp only [Nat.pow_eq, Nat.mul_one]
    calc num * 2 ^ (-exponent).toNat < 2 ^ k * 2 ^ (-exponent).toNat :=
          Nat.mul_lt_mul_of_pos_right hk (Nat.two_pow_pos _)
      _ = 2 ^ (k + (-exponent).toNat) := (Nat.pow_add _ _ _).symm
      _ ≤ 2 ^ 53 := Nat.pow_le_pow_right (by decide) (by omega)

theorem InRange.log2_le {n : Nat} (hzero : n ≠ 0) (h : InRange n) : n.log2 ≤ 1023 := by
  obtain ⟨e, he, hn⟩ := h
  have hlt : n < 2 ^ (53 + e) := by
    rw [Nat.pow_add]
    exact Nat.lt_of_le_of_lt hn (Nat.mul_lt_mul_of_pos_right (by decide) (Nat.two_pow_pos e))
  have hlog := (Nat.log2_lt hzero).2 hlt
  omega

theorem rescale_one_pos (num : Nat) (exponent : Int) : 0 < (rescale num 1 exponent).2 := by
  unfold rescale
  split_ifs
  · rw [Nat.one_mul]
    exact Nat.two_pow_pos _
  · exact Nat.one_pos

/-- A number in range in units of which it has at most 2 ^ 53 is rounded to no more of them, and to
    less in the largest units. -/
theorem roundQuotient_rescale_le {num : Nat} {exponent : Int} (hnum : InRange num)
    (hlt : (rescale num 1 exponent).1 < 2 ^ 53 * (rescale num 1 exponent).2) :
    roundQuotient (rescale num 1 exponent).1 (rescale num 1 exponent).2 ≤ 2 ^ 53 ∧
      (exponent = 971 →
        roundQuotient (rescale num 1 exponent).1 (rescale num 1 exponent).2 ≤ 2 ^ 53 - 1) := by
  have hpos := rescale_one_pos num exponent
  refine ⟨roundQuotient_le hlt.le hpos, fun hlargest => roundQuotient_le ?_ hpos⟩
  obtain ⟨e, he, hle⟩ := hnum
  rw [rescale, if_pos (by omega), Nat.one_mul, Nat.pow_eq]
  have hunits : 2 ^ e ≤ 2 ^ exponent.toNat := Nat.pow_le_pow_right (by decide) (by omega)
  exact hle.trans (Nat.mul_le_mul_left _ hunits)

/-- The bits of a rounded number in units of a power of two. -/
theorem bits_lt {q : Nat} {exponent : Int} (hexponent : exponent ≤ 971) (hq : q ≤ 2 ^ 53)
    (hlargest : exponent = 971 → q ≤ 2 ^ 53 - 1) :
    (if q < 2 ^ 52 then q else (exponent + 1074).toNat * 2 ^ 52 + q) < 2047 * 2 ^ 52 := by
  split_ifs <;> omega

/-- Of the two units that are tried, the one that is taken makes a number at most 53 bits long. -/
theorem rescale_taken {num : Nat} {first exponent : Int} (hzero : num ≠ 0)
    (hfirst : first = num.log2 - 53)
    (hexponent : (if Nat.pow 2 53 ≤ (rescale num 1 first).1 / (rescale num 1 first).2 then first + 1
      else first) = exponent) :
    exponent ≤ num.log2 - 52 ∧
      (rescale num 1 exponent).1 < 2 ^ 53 * (rescale num 1 exponent).2 := by
  split_ifs at hexponent with hlong
  · have hlt : num < 2 ^ (num.log2 + 1) := (Nat.log2_lt hzero).1 (Nat.lt_succ_self _)
    exact ⟨by omega, rescale_one_lt hlt (by omega)⟩
  · subst hexponent
    rw [Nat.not_le, Nat.div_lt_iff_lt_mul (rescale_one_pos num _)] at hlong
    exact ⟨by omega, hlong⟩

/-- Every integer in range has a nearest double. -/
theorem ofInt?_isSome {k : Int} (h : InRange k.natAbs) : (ofInt? k).isSome := by
  unfold ofInt? nearest?
  split_ifs with hzero
  · rfl
  · have hlog := h.log2_le hzero
    have hone : (Nat.log2 1 : Int) = 0 := by decide
    have hfirst : max ((k.natAbs.log2 : Int) - Nat.log2 1 - 53) (-1074) = k.natAbs.log2 - 53 := by
      omega
    dsimp only
    rw [hfirst]
    generalize hexponent : (if Nat.pow 2 53 ≤ _ / _ then _ else _ : Int) = exponent
    obtain ⟨hle, hlt⟩ := rescale_taken hzero rfl hexponent
    obtain ⟨hq, hlargest⟩ := roundQuotient_rescale_le h hlt
    have hbits := bits_lt (show exponent ≤ 971 by omega) hq hlargest
    simp only [Nat.pow_eq]
    rw [if_neg (Nat.not_le.2 hbits)]
    rfl

/-! ## Numbers of 53 bits -/

/-- A number with a mantissa of at most 53 bits. -/
def Fits (n : ℕ) : Prop :=
  ∃ m e : ℕ, m < 2 ^ 53 ∧ n = m * 2 ^ e

/-- What is cut off a finite double fits. -/
theorem fits_truncate {x : Float} {m e : ℤ} (h : reading x = .finite m e) :
    Fits (truncate m e).natAbs := by
  obtain ⟨hm, -⟩ := reading_finite h
  unfold truncate
  split_ifs
  · exact ⟨m.natAbs, e.toNat, by omega, by rw [Int.natAbs_mul, Int.natAbs_natCast, Nat.pow_eq]⟩
  · refine ⟨m.natAbs / 2 ^ (-e).toNat, 0, ?_, ?_⟩
    · calc m.natAbs / 2 ^ (-e).toNat ≤ m.natAbs := Nat.div_le_self _ _
        _ < 2 ^ 53 := by omega
    · rw [Int.natAbs_tdiv, Int.natAbs_natCast, Nat.pow_eq, pow_zero, mul_one]
      rfl

/-- In units of which it has at least 53 bits, a number that fits is a whole number. -/
theorem Fits.dvd {n s : ℕ} (h : Fits n) (hle : 2 ^ 52 * 2 ^ s ≤ n) : 2 ^ s ∣ n := by
  obtain ⟨m, e, hm, rfl⟩ := h
  have hpow : 2 ^ (52 + s) < 2 ^ (53 + e) := by
    calc 2 ^ (52 + s) = 2 ^ 52 * 2 ^ s := Nat.pow_add _ _ _
      _ ≤ m * 2 ^ e := hle
      _ < 2 ^ 53 * 2 ^ e := Nat.mul_lt_mul_of_pos_right hm (Nat.two_pow_pos e)
      _ = 2 ^ (53 + e) := (Nat.pow_add _ _ _).symm
  have hexponent : 52 + s < 53 + e := (Nat.pow_lt_pow_iff_right Nat.one_lt_two).1 hpow
  exact Dvd.dvd.mul_left (Nat.pow_dvd_pow 2 (by omega)) m

/-! ## Bits -/

/-- The bits of a mantissa of 53 bits stand for it. -/
theorem isValue_withSign_of_lt {m : ℕ} {e : ℤ} (hfull : 2 ^ 52 ≤ m) (hlt : m < 2 ^ 53)
    (he : -1074 ≤ e) (he' : e ≤ 971) :
    IsValue (withSign false ((e + 1074).toNat * 2 ^ 52 + m)) (m * 2 ^ e) := by
  have hpos : 0 < m := Nat.lt_of_lt_of_le (Nat.two_pow_pos 52) hfull
  obtain ⟨b, hb⟩ : ∃ b : BitVec Format.binary64.numBits,
      b = (UInt64.ofNat ((e + 1074).toNat * 2 ^ 52 + m)).toBitVec := ⟨_, rfl⟩
  have htoNat : b.toNat = (e + 1074).toNat * 2 ^ 52 + m := by
    rw [hb, UInt64.toNat_toBitVec, UInt64.toNat_ofNat']
    omega
  have hunpack : UnpackedFloat.unpack Format.binary64 b = .finite .positive m e hpos := by
    have hexponent := toNat_unpackExponent (b := b)
    have hmantissa := toNat_one_append_unpackMantissa (b := b)
    have hones := unpackExponent_eq_ones (b := b)
    have hsmall := unpackExponent_eq_zero (b := b)
    have hsign := ofBitVec_unpackSign (b := b)
    rw [htoNat] at hexponent hmantissa hones hsmall hsign
    -- The mantissa's leading bit carries into the exponent field, so the field is one higher.
    have hfield : ((e + 1074).toNat * 2 ^ 52 + m) / 2 ^ 52 % 2 ^ 11 = (e + 1075).toNat := by omega
    have hfraction : ((e + 1074).toNat * 2 ^ 52 + m) % 2 ^ 52 + 2 ^ 52 = m := by omega
    rw [hfield] at hexponent hones hsmall
    rw [hfraction] at hmantissa
    rw [if_neg (by omega)] at hsign
    have hnotOnes : unpackExponent b ≠ -1#11 := mt hones.1 (by omega)
    have hnotSmall : unpackExponent b ≠ 0#11 := mt hsmall.1 (by omega)
    rw [UnpackedFloat.unpack]
    simp only [hnotOnes, hnotSmall, if_false, hsign, hmantissa, hexponent]
    congr 1
    rw [show ((Format.binary64.exponentBias : ℕ) : ℤ)
      + (Format.binary64.mantissaBitsWithoutImplicit : ℕ) = 1075 from rfl]
    omega
  have hpack : (withSign false ((e + 1074).toNat * 2 ^ 52 + m)).toModel
      = Float.Model.pack (UnpackedFloat.unpack Format.binary64 b) := by
    rw [hb]
    rfl
  rw [IsValue, hpack, hunpack, unpack_pack_full hpos hfull hlt he he']
  exact .finite m e hpos ⟨hlt, he, .inl hfull⟩

/-- A mantissa that was rounded up to one bit more is one of the next units. -/
theorem isValue_withSign {q : ℕ} {e : ℤ} (hfull : 2 ^ 52 ≤ q) (hle : q ≤ 2 ^ 53) (he : -1074 ≤ e)
    (he' : e ≤ 971) (hlargest : e = 971 → q ≤ 2 ^ 53 - 1) :
    IsValue (withSign false ((e + 1074).toNat * 2 ^ 52 + q)) (q * 2 ^ e) := by
  rcases hle.lt_or_eq with hlt | rfl
  · exact isValue_withSign_of_lt hfull hlt he he'
  · have hnext : e + 1 ≤ 971 := by
      by_contra hlarge
      have hq := hlargest (by omega)
      omega
    have hbits : (e + 1074).toNat * 2 ^ 52 + 2 ^ 53 = (e + 1 + 1074).toNat * 2 ^ 52 + 2 ^ 52 := by
      omega
    have hvalue : ((2 ^ 53 : ℕ) : ℚ) * 2 ^ e = ((2 ^ 52 : ℕ) : ℚ) * 2 ^ (e + 1) := by
      rw [zpow_add₀ two_ne_zero]
      push_cast
      ring
    rw [hbits, hvalue]
    exact isValue_withSign_of_lt le_rfl (by norm_num) (by omega) hnext

/-! ## Rounding -/

/-- A quotient that is not below an integer is not rounded below it. -/
theorem le_roundQuotient {num den q : ℕ} (h : q * den ≤ num) (hden : 0 < den) :
    q ≤ roundQuotient num den := by
  have hle : q ≤ num / den := (Nat.le_div_iff_mul_le hden).2 h
  unfold roundQuotient
  dsimp only
  split_ifs <;> omega

theorem roundQuotient_one (n : ℕ) : roundQuotient n 1 = n := by
  simp [roundQuotient, Nat.mod_one]

/-- Of the two units that are tried for an integer, it is the larger one in which it has 53 bits. -/
theorem unit_eq {k : ℕ} (hzero : k ≠ 0) {first : ℤ} (hfirst : first = k.log2 - 53) :
    (if Nat.pow 2 53 ≤ (rescale k 1 first).1 / (rescale k 1 first).2 then first + 1 else first)
      = k.log2 - 52 := by
  have hlog : 2 ^ k.log2 ≤ k := Nat.log2_self_le hzero
  have hlong : 2 ^ 53 ≤ (rescale k 1 first).1 / (rescale k 1 first).2 := by
    rw [Nat.le_div_iff_mul_le (rescale_one_pos k first)]
    unfold rescale
    split_ifs
    · simp only [Nat.pow_eq, Nat.one_mul, ← Nat.pow_add]
      exact (Nat.pow_le_pow_right two_pos (by omega)).trans hlog
    · simp only [Nat.pow_eq, Nat.mul_one]
      calc 2 ^ 53 = 2 ^ k.log2 * 2 ^ (-first).toNat := by
            rw [← Nat.pow_add]
            congr 1
            omega
        _ ≤ k * 2 ^ (-first).toNat := Nat.mul_le_mul_right _ hlog
  rw [Nat.pow_eq, if_pos hlong]
  omega

/-- How many of its units an integer has when it is rounded. -/
def rounded (k : ℕ) : ℕ :=
  roundQuotient (rescale k 1 (k.log2 - 52)).1 (rescale k 1 (k.log2 - 52)).2

/-- An integer of at most 53 bits is not rounded. -/
theorem rounded_of_small {k : ℕ} (h : k.log2 ≤ 52) : rounded k = k * 2 ^ (52 - k.log2) := by
  have hunits : (-((k.log2 : ℤ) - 52)).toNat = 52 - k.log2 := by omega
  unfold rounded rescale
  split_ifs with hnonneg
  · have hzero : ((k.log2 : ℤ) - 52).toNat = 0 ∧ 52 - k.log2 = 0 := by omega
    rw [hzero.1, hzero.2]
    exact (roundQuotient_one k).trans (Nat.mul_one k).symm
  · rw [hunits, Nat.pow_eq]
    exact roundQuotient_one _

theorem rounded_of_large {k : ℕ} (h : 52 ≤ k.log2) :
    rounded k = roundQuotient k (2 ^ (k.log2 - 52)) := by
  have hunits : ((k.log2 : ℤ) - 52).toNat = k.log2 - 52 := by omega
  rw [rounded, rescale, if_pos (by omega), hunits, Nat.pow_eq, Nat.one_mul]

theorem le_rounded {k : ℕ} (hzero : k ≠ 0) : 2 ^ 52 ≤ rounded k := by
  have hlog : 2 ^ k.log2 ≤ k := Nat.log2_self_le hzero
  rcases Nat.le_total k.log2 52 with hsmall | hlarge
  · rw [rounded_of_small hsmall]
    calc 2 ^ 52 = 2 ^ k.log2 * 2 ^ (52 - k.log2) := by rw [← Nat.pow_add, Nat.add_sub_cancel' hsmall]
      _ ≤ k * 2 ^ (52 - k.log2) := Nat.mul_le_mul_right _ hlog
  · rw [rounded_of_large hlarge]
    apply le_roundQuotient _ (Nat.two_pow_pos _)
    rw [← Nat.pow_add, Nat.add_sub_cancel' hlarge]
    exact hlog

/-- The nearest double of an integer in range. -/
theorem exists_ofInt? {k : ℕ} (hzero : k ≠ 0) (h : InRange k) :
    ∃ x, ofInt? k = some x ∧ IsValue x (rounded k * 2 ^ ((k.log2 : ℤ) - 52)) := by
  have hlog := h.log2_le hzero
  have hone : (Nat.log2 1 : ℤ) = 0 := by decide
  have hfirst : max ((k.log2 : ℤ) - Nat.log2 1 - 53) (-1074) = k.log2 - 53 := by omega
  have hshort := (rescale_taken hzero rfl (unit_eq hzero rfl)).2
  obtain ⟨hle, hlargest⟩ := roundQuotient_rescale_le h hshort
  have hfull := le_rounded hzero
  have hbits : (if rounded k < 2 ^ 52 then rounded k
      else ((k.log2 : ℤ) - 52 + 1074).toNat * 2 ^ 52 + rounded k) < 2047 * 2 ^ 52 :=
    bits_lt (by omega) hle hlargest
  rw [if_neg (Nat.not_lt.2 hfull)] at hbits
  have hrounded : roundQuotient (rescale k 1 (k.log2 - 52)).1 (rescale k 1 (k.log2 - 52)).2
      = rounded k := rfl
  have hsign : decide ((k : ℤ) < 0) = false := by simp
  refine ⟨_, ?_, isValue_withSign hfull hle (by omega) (by omega) hlargest⟩
  unfold ofInt? nearest?
  rw [Int.natAbs_natCast, if_neg hzero]
  dsimp only
  rw [hfirst, unit_eq hzero rfl, hrounded]
  simp only [Nat.pow_eq]
  rw [if_neg (Nat.not_lt.2 hfull), if_neg (Nat.not_le.2 hbits), hsign]

/-- What an integer is rounded to is a whole number, and no number that fits is passed. -/
theorem rounded_between {a k b : ℕ} (ha : Fits a) (hb : Fits b) (hzero : k ≠ 0) (hak : a ≤ k)
    (hkb : k ≤ b) : ∃ r : ℕ, (rounded k * 2 ^ ((k.log2 : ℤ) - 52) : ℚ) = r ∧ a ≤ r ∧ r ≤ b := by
  have hlog : 2 ^ k.log2 ≤ k := Nat.log2_self_le hzero
  rcases Nat.le_total k.log2 52 with hsmall | hlarge
  · refine ⟨k, ?_, hak, hkb⟩
    rw [rounded_of_small hsmall]
    push_cast
    rw [← zpow_natCast, mul_assoc, ← zpow_add₀ two_ne_zero, Nat.cast_sub hsmall]
    simp
  · obtain ⟨s, hs⟩ := Nat.exists_eq_add_of_le hlarge
    have hpos : 0 < 2 ^ s := Nat.two_pow_pos s
    have hrounded : rounded k = roundQuotient k (2 ^ s) := by
      rw [rounded_of_large hlarge, hs, Nat.add_sub_cancel_left]
    have hleast : 2 ^ 52 * 2 ^ s ≤ k := by
      rw [← Nat.pow_add, ← hs]
      exact hlog
    refine ⟨roundQuotient k (2 ^ s) * 2 ^ s, ?_, ?_, ?_⟩
    · rw [hrounded, hs]
      push_cast
      rw [add_sub_cancel_left, zpow_natCast]
    · -- A bound with few bits is below every rounding; one with many is a multiple of the unit.
      rcases Nat.lt_or_ge a (2 ^ 52 * 2 ^ s) with hlt | hge
      · exact hlt.le.trans (Nat.mul_le_mul_right _ (hrounded ▸ le_rounded hzero))
      · obtain ⟨c, rfl⟩ := ha.dvd hge
        rw [Nat.mul_comm] at hak ⊢
        exact Nat.mul_le_mul_right _ (le_roundQuotient hak hpos)
    · obtain ⟨c, rfl⟩ := hb.dvd (hleast.trans hkb)
      rw [Nat.mul_comm _ c] at hkb ⊢
      exact Nat.mul_le_mul_right _ (roundQuotient_le hkb hpos)

/-- Between two numbers that fit, an integer has a nearest double, which is between them, too. -/
theorem exists_ofInt?_between {a k b : ℕ} (ha : Fits a) (hb : Fits b) (hin : InRange b)
    (hak : a ≤ k) (hkb : k ≤ b) :
    ∃ (x : Float) (r : ℕ), ofInt? k = some x ∧ IsValue x r ∧ a ≤ r ∧ r ≤ b := by
  by_cases hzero : k = 0
  · subst hzero
    exact ⟨zero false, 0, rfl, Nat.cast_zero (R := ℚ) ▸ .zero .positive, hak, hkb⟩
  · obtain ⟨x, hx, hvalue⟩ := exists_ofInt? hzero (hin.mono hkb)
    obtain ⟨r, hr, har, hrb⟩ := rounded_between ha hb hzero hak hkb
    exact ⟨x, r, hx, hr ▸ hvalue, har, hrb⟩

end ApiJourney.Binary64
