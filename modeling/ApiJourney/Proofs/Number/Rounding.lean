-- SUMMARY: What the sum and the quotient of doubles stand for, up to what rounding takes off.
import ApiJourney.Number.Binary64
import Mathlib

/-!
# Rounding

Sums and quotients of doubles that are not below zero. The exact result is brought to units of
which it has 53 bits, or to the smallest ones, and there it is rounded to the nearest integer.
So a sum is off by at most one part in 2 ^ 53, and a quotient by that and by half of the smallest
unit, unless they are beyond the largest double.
-/

namespace ApiJourney.Binary64

open Float.Model Float.Model.UnpackedFloat

/-! ## The parts of a double -/

/-- What a double taken apart stands for. -/
def ofUnpacked : UnpackedFloat → Reading
  | .infinity s => .infinite (s == .negative)
  | .notANumber => .nan
  | .zero _ => .finite 0 (-1074)
  | .finite s m e _ => .finite (s.apply m) e

section Parts

variable {b : BitVec Format.binary64.numBits}

theorem toNat_unpackMantissa : (unpackMantissa b).toNat = b.toNat % 2 ^ 52 := by
  simp [unpackMantissa_def]

theorem toNat_unpackExponent : (unpackExponent b).toNat = b.toNat / 2 ^ 52 % 2 ^ 11 := by
  simp [unpackExponent_def, Nat.shiftRight_eq_div_pow]

theorem ofBitVec_unpackSign :
    Sign.ofBitVec (unpackSign b) = if 2 ^ 63 ≤ b.toNat then .negative else .positive := by
  have hlt : b.toNat < 2 ^ 64 := b.isLt
  have htoNat : (unpackSign b).toNat = b.toNat / 2 ^ 63 := by
    simp only [unpackSign_def, BitVec.extractLsb'_toNat, Nat.shiftRight_eq_div_pow]
    exact Nat.mod_eq_of_lt (Nat.div_lt_of_lt_mul hlt)
  have hzero : unpackSign b = 0#1 ↔ b.toNat < 2 ^ 63 := by
    rw [← BitVec.toNat_inj, htoNat]
    simp
  rw [Sign.ofBitVec, if_congr hzero rfl rfl]
  split_ifs <;> first | rfl | omega

theorem unpackMantissa_eq_zero : unpackMantissa b = 0#52 ↔ b.toNat % 2 ^ 52 = 0 := by
  rw [← toNat_unpackMantissa, ← BitVec.toNat_inj]
  rfl

theorem unpackExponent_eq_zero : unpackExponent b = 0#11 ↔ b.toNat / 2 ^ 52 % 2 ^ 11 = 0 := by
  rw [← toNat_unpackExponent, ← BitVec.toNat_inj]
  rfl

theorem unpackExponent_eq_ones : unpackExponent b = -1#11 ↔ b.toNat / 2 ^ 52 % 2 ^ 11 = 2047 := by
  rw [← toNat_unpackExponent, ← BitVec.toNat_inj]
  rfl

theorem toNat_one_append_unpackMantissa :
    (1#1 ++ unpackMantissa b).toNat = b.toNat % 2 ^ 52 + 2 ^ 52 := by
  have hlt : b.toNat % 2 ^ 52 < 2 ^ 52 := Nat.mod_lt _ (Nat.two_pow_pos 52)
  rw [BitVec.toNat_append, toNat_unpackMantissa, Nat.add_comm]
  exact (Nat.two_pow_add_eq_or_of_lt hlt 1).symm

end Parts

theorem bias_eq : ((Format.binary64.exponentBias : ℕ) : ℤ) = 1023 := rfl

theorem reading_eq (x : Float) : reading x = ofUnpacked x.toModel.unpack := by
  obtain ⟨⟨bits, hvalid⟩⟩ := x
  have hmantissa := toNat_unpackMantissa (b := bits.toBitVec)
  have hexponent := toNat_unpackExponent (b := bits.toBitVec)
  have hsign := ofBitVec_unpackSign (b := bits.toBitVec)
  have hzero := unpackMantissa_eq_zero (b := bits.toBitVec)
  have hsmall := unpackExponent_eq_zero (b := bits.toBitVec)
  have hones := unpackExponent_eq_ones (b := bits.toBitVec)
  have hfull := toNat_one_append_unpackMantissa (b := bits.toBitVec)
  have hbias : ((Format.binary64.exponentBias : ℕ) : ℤ)
      + (Format.binary64.mantissaBitsWithoutImplicit : ℕ) = 1075 := rfl
  rw [UInt64.toNat_toBitVec] at *
  simp only [reading, Float.toBits, isNegative, magnitude, Nat.pow_eq, Float.Model.unpack,
    UnpackedFloat.unpack, hmantissa, hexponent, hsign, hzero, hsmall, hones, hfull, hbias]
  by_cases hfield : bits.toNat / 2 ^ 52 % 2 ^ 11 = 2047
  · by_cases hfraction : bits.toNat % 2 ^ 52 = 0 <;> by_cases hneg : 2 ^ 63 ≤ bits.toNat <;>
      simp only [hfield, hfraction, hneg] <;> rfl
  · by_cases hsmall : bits.toNat / 2 ^ 52 % 2 ^ 11 = 0
    · by_cases hfraction : bits.toNat % 2 ^ 52 = 0 <;> by_cases hneg : 2 ^ 63 ≤ bits.toNat <;>
        simp only [hsmall, hfraction, hneg, decide_true, decide_false, if_true, if_false,
          dite_true, dite_false] <;> rfl
    · by_cases hneg : 2 ^ 63 ≤ bits.toNat <;>
        simp only [hfield, hsmall, hneg, decide_true, decide_false, if_true, if_false] <;> rfl

/-! ## Rounding -/

/-- Where a number is between an integer and the next one. -/
def Located (m : ℕ) (x : ℚ) : Accuracy → Prop
  | .exact => x = m
  | .inexact .lt => m < x ∧ x < m + 1 / 2
  | .inexact .eq => x = m + 1 / 2
  | .inexact .gt => m + 1 / 2 < x ∧ x < m + 1

theorem Located.floor {m : ℕ} {x : ℚ} {a : Accuracy} (h : Located m x a) :
    m ≤ x ∧ x < m + 1 := by
  rcases a with _ | _ | _ | _ <;> simp only [Located] at h <;> constructor <;> linarith

/-- Rounding goes to the nearest integer. -/
theorem Located.abs_round_sub_le {m : ℕ} {x : ℚ} {a : Accuracy} (h : Located m x a) :
    |(a.roundToNearestEven m : ℚ) - x| ≤ 1 / 2 := by
  rw [abs_le]
  rcases a with _ | _ | _ | _ <;> simp only [Located, Accuracy.roundToNearestEven] at h ⊢
  · constructor <;> linarith
  · constructor <;> linarith
  · have hmod : ((m % 2 : ℕ) : ℚ) ≤ 1 := by
      exact_mod_cast Nat.lt_succ_iff.1 (Nat.mod_lt m two_pos)
    have hnonneg : (0 : ℚ) ≤ ((m % 2 : ℕ) : ℚ) := Nat.cast_nonneg _
    push_cast
    constructor <;> linarith
  · push_cast
    constructor <;> linarith

theorem le_round (m : ℕ) (a : Accuracy) :
    m ≤ a.roundToNearestEven m ∧ a.roundToNearestEven m ≤ m + 1 := by
  rcases a with _ | _ | _ | _ <;> simp only [Accuracy.roundToNearestEven] <;> omega

/-- The two bits that are kept beside a mantissa tell where its half is, too. -/
theorem Located.shiftRightOne {em : ExtendedMantissa} {x : ℚ}
    (h : Located em.mantissa x em.accuracy) :
    Located em.shiftRightOne.mantissa (x / 2) em.shiftRightOne.accuracy := by
  obtain ⟨m, r, s⟩ := em
  have hsplit : ((m % 2 : ℕ) : ℚ) + 2 * ((m / 2 : ℕ) : ℚ) = m := by
    exact_mod_cast Nat.mod_add_div m 2
  have hone : ((1 : ℕ) != 0) = true := rfl
  rcases Nat.mod_two_eq_zero_or_one m with hm | hm <;> rw [hm] at hsplit <;> push_cast at hsplit <;>
    cases r <;> cases s <;>
    simp only [Located, ExtendedMantissa.accuracy, ExtendedMantissa.shiftRightOne, hm,
      Bool.or_false, Bool.or_true, bne_self_eq_false, hone] at h ⊢ <;>
    first | linarith | (constructor <;> linarith)

theorem Located.shiftRight {m : ℕ} {x : ℚ} {a : Accuracy} (h : Located m x a) (n : ℕ) :
    Located (ExtendedMantissa.ofMantissaAndAccuracy m a >>> n).mantissa (x / 2 ^ n)
      (ExtendedMantissa.ofMantissaAndAccuracy m a >>> n).accuracy := by
  induction n with
  | zero =>
    rw [pow_zero, div_one]
    rcases a with _ | _ | _ | _ <;> exact h
  | succ n ih =>
    rw [pow_succ, ← div_div]
    exact ih.shiftRightOne

/-- A mantissa of at most 53 bits, and of less only in the smallest units. -/
structure Canonical (m : ℕ) (e : ℤ) : Prop where
  lt : m < 2 ^ 53
  smallest : -1074 ≤ e
  full : 2 ^ 52 ≤ m ∨ e = -1074

/-- A number that is not below zero and has a mantissa and an exponent. -/
inductive Denotes : UnpackedFloat → ℚ → Prop
  | zero (s : Sign) : Denotes (.zero s) 0
  | finite (m : ℕ) (e : ℤ) (hm : 0 < m) (h : Canonical m e) :
      Denotes (.finite .positive m e hm) (m * 2 ^ e)

/-- The exponent of the units in which a number is rounded. -/
def units (m : ℕ) (e : ℤ) : ℤ :=
  max (m.log2 + 1 + e - 53) (-1074)

theorem targetExponent_eq (m : ℕ) (e : ℤ) :
    Format.binary64.targetExponent (totalExponent m e) = units m e := rfl

/-- A rounded mantissa is at most one bit too long. -/
theorem denotes_shift {n : ℕ} {t : ℤ} (hn : n ≤ 2 ^ 53) (ht : -1074 ≤ t)
    (hfull : 2 ^ 52 ≤ n ∨ t = -1074) :
    Denotes
      (let (em, e) := shiftToTargetExponent Format.binary64 n t .exact
        if h : em.mantissa = 0 then .zero .positive
        else .finite .positive em.mantissa e (Nat.pos_of_ne_zero h)) (n * 2 ^ t) := by
  rcases hn.lt_or_eq with hlt | rfl
  · have hlog : n.log2 < 53 := by
      rcases Nat.eq_zero_or_pos n with rfl | hpos
      · decide
      · exact (Nat.log2_lt hpos.ne').2 hlt
    have hshift : (units n t - t).toNat = 0 := by
      unfold units
      omega
    simp only [shiftToTargetExponent, targetExponent_eq, shiftToExponent, hshift]
    change Denotes (if h : n = 0 then .zero .positive
      else .finite .positive n (t + (0 : ℕ)) (Nat.pos_of_ne_zero h)) (n * 2 ^ t)
    split_ifs with h
    · subst h
      simpa using Denotes.zero .positive
    · simpa using Denotes.finite n t (Nat.pos_of_ne_zero h) ⟨hlt, ht, hfull⟩
  · -- A mantissa that rounded up to `2 ^ 53` has one bit more and moves to the next exponent.
    have hshift : (units (2 ^ 53) t - t).toNat = 1 := by
      simp only [units, Nat.log2_two_pow]
      omega
    simp only [shiftToTargetExponent, targetExponent_eq, shiftToExponent, hshift]
    have hvalue : ((2 ^ 53 : ℕ) : ℚ) * 2 ^ t = (2 ^ 52 : ℕ) * 2 ^ (t + (1 : ℕ)) := by
      rw [zpow_add₀ two_ne_zero]
      push_cast
      ring
    rw [hvalue]
    exact .finite (2 ^ 52) (t + (1 : ℕ)) (Nat.two_pow_pos 52) ⟨by norm_num, by omega, .inl le_rfl⟩

theorem smallest_le_units (m : ℕ) (e : ℤ) : -1074 ≤ units m e :=
  le_max_right _ _

theorem log2_le_units (m : ℕ) (e : ℤ) : m.log2 + 1 + e - 53 ≤ units m e :=
  le_max_left _ _

theorem units_cases (m : ℕ) (e : ℤ) :
    units m e = -1074 ∨ units m e = m.log2 + 1 + e - 53 := by
  unfold units
  omega

/-- In its units a number is below 2 ^ 53. -/
theorem lt_of_units {m : ℕ} {e : ℤ} {k : ℕ} (hk : units m e = e + k) {y : ℚ} (hy : y < m + 1) :
    y / 2 ^ k < 2 ^ 53 := by
  have hlog := log2_le_units m e
  have hm : m + 1 ≤ 2 ^ (53 + k) :=
    Nat.lt_log2_self.trans_le (Nat.pow_le_pow_right two_pos (by omega))
  have hm' : (m : ℚ) + 1 ≤ 2 ^ 53 * 2 ^ k := by
    rw [← pow_add]
    exact_mod_cast hm
  rw [div_lt_iff₀ (by positivity)]
  linarith

/-- In its units a number has 53 bits, but for the smallest units. -/
theorem le_of_units {m : ℕ} {e : ℤ} {k : ℕ} (hk : units m e = e + k) (hsmall : units m e ≠ -1074)
    {y : ℚ} (hy : m ≤ y) : 2 ^ 52 ≤ y / 2 ^ k := by
  have hlog : m.log2 = 52 + k := by
    have hcases := units_cases m e
    omega
  have hm : 2 ^ (52 + k) ≤ m := by
    rw [← hlog]
    exact Nat.log2_self_le (by rintro rfl; simp at hlog; omega)
  have hm' : (2 : ℚ) ^ 52 * 2 ^ k ≤ m := by
    rw [← pow_add]
    exact_mod_cast hm
  rw [le_div_iff₀ (by positivity)]
  linarith

/-- The result of rounding: in units of which the number has at most 53 bits, it is taken off by
    at most one half. -/
theorem denotes_roundWithAccuracy {m : ℕ} {e : ℤ} {a : Accuracy} {x : ℚ}
    (hx : Located m (x / 2 ^ e) a) (he : e ≤ units m e) :
    ∃ n : ℕ, Denotes (roundWithAccuracy Format.binary64 .positive m e a) (n * 2 ^ units m e) ∧
      |n - x / 2 ^ units m e| ≤ 1 / 2 ∧
      (units m e = -1074 ∨ 2 ^ 52 ≤ x / 2 ^ units m e) := by
  obtain ⟨k, hk⟩ := Int.eq_ofNat_of_zero_le (sub_nonneg.2 he)
  have hunits : units m e = e + k := by omega
  set em := ExtendedMantissa.ofMantissaAndAccuracy m a >>> k with hem
  have hlocated : Located em.mantissa (x / 2 ^ e / 2 ^ k) em.accuracy :=
    hx.shiftRight k
  have hscale : x / 2 ^ units m e = x / 2 ^ e / 2 ^ k := by
    rw [hunits, zpow_add₀ two_ne_zero, zpow_natCast, div_div]
  obtain ⟨hbelow, habove⟩ := hlocated.floor
  obtain ⟨hle, hle'⟩ := le_round em.mantissa em.accuracy
  have hlt := lt_of_units hunits hx.floor.2
  have hn : em.roundedMantissa ≤ 2 ^ 53 := by
    have hmantissa : em.mantissa < 2 ^ 53 := by exact_mod_cast hbelow.trans_lt hlt
    exact hle'.trans hmantissa
  have hfull : units m e = -1074 ∨ 2 ^ 52 ≤ x / 2 ^ units m e := by
    rw [hscale]
    exact or_iff_not_imp_left.2 fun hsmall => le_of_units hunits hsmall hx.floor.1
  refine ⟨em.roundedMantissa, ?_, ?_, hfull⟩
  · have hshift := denotes_shift hn (smallest_le_units m e) <| hfull.symm.imp_left fun h => by
      rw [hscale] at h
      have hmantissa : 2 ^ 52 < em.mantissa + 1 := by exact_mod_cast h.trans_lt habove
      exact (Nat.lt_succ_iff.1 hmantissa).trans hle
    rw [roundWithAccuracy]
    simp only [shiftToTargetExponent, targetExponent_eq, shiftToExponent, hk, Int.toNat_natCast,
      ← hem, ← hunits] at hshift ⊢
    exact hshift
  · rw [hscale]
    exact hlocated.abs_round_sub_le

/-! ## Packing -/

theorem unpack_pack_smallest {s : Sign} {m : ℕ} (hm : 0 < m) (hlt : m < 2 ^ 52) :
    (Float.Model.pack (.finite s m (-1074) hm)).unpack = .finite s m (-1074) hm := by
  have hlog : m.log2 + 1 ≠ Format.binary64.mantissaBits := by
    have hlog : m.log2 < 52 := (Nat.log2_lt hm.ne').2 hlt
    have hbits : Format.binary64.mantissaBits = 53 := rfl
    omega
  have htoNat : (BitVec.ofNat 52 m).toNat = m := by
    rw [BitVec.toNat_ofNat, Nat.mod_eq_of_lt hlt]
  have hne : BitVec.ofNat 52 m ≠ 0#52 := fun h => by
    rw [h] at htoNat
    exact hm.ne htoNat
  change UnpackedFloat.unpack Format.binary64 (UnpackedFloat.pack Format.binary64 _) = _
  rw [UnpackedFloat.pack]
  simp only
  rw [if_neg (by decide), if_neg hlog, UnpackedFloat.unpack]
  simp only [unpackMantissa_packComponents, unpackExponent_packComponents,
    unpackSign_packComponents, Sign.ofBitVec_toBitVec]
  rw [if_neg (by decide), if_pos trivial, dif_neg hne]
  simp only [htoNat]
  rfl

theorem unpack_pack_full {s : Sign} {m : ℕ} {e : ℤ} (hm : 0 < m) (hfull : 2 ^ 52 ≤ m)
    (hlt : m < 2 ^ 53) (he : -1074 ≤ e) (he' : e ≤ 971) :
    (Float.Model.pack (.finite s m e hm)).unpack = .finite s m e hm := by
  have hlog : m.log2 = 52 := (Nat.log2_eq_iff hm.ne').2 ⟨hfull, hlt⟩
  have hbiased : (e + Format.binary64.exponentBias
      + Format.binary64.mantissaBitsWithoutImplicit).toNat = (e + 1075).toNat := by
    change (e + 1023 + 52).toNat = _
    omega
  have htoNat : (1#1 ++ BitVec.ofNat 52 m).toNat = m := by
    rw [BitVec.toNat_append, ← Nat.shiftLeft_add_eq_or_of_lt (BitVec.ofNat 52 m).isLt,
      BitVec.toNat_ofNat, Nat.shiftLeft_eq]
    change 1 * 2 ^ 52 + m % 2 ^ 52 = m
    omega
  have hexponent : (BitVec.ofNat 11 (e + 1075).toNat).toNat = (e + 1075).toNat := by
    rw [BitVec.toNat_ofNat, Nat.mod_eq_of_lt (by omega)]
  have hinfinite : BitVec.ofNat 11 (e + 1075).toNat ≠ -1#11 := fun h => by
    have hvalue : (e + 1075).toNat = 2047 := hexponent ▸ h ▸ rfl
    omega
  have hsmall : BitVec.ofNat 11 (e + 1075).toNat ≠ 0#11 := fun h => by
    have hvalue : (e + 1075).toNat = 0 := hexponent ▸ h ▸ rfl
    omega
  change UnpackedFloat.unpack Format.binary64 (UnpackedFloat.pack Format.binary64 _) = _
  rw [UnpackedFloat.pack]
  simp only [hlog, hbiased]
  rw [if_neg (by omega), if_pos (by rfl), UnpackedFloat.unpack]
  simp only [unpackMantissa_packComponents, unpackExponent_packComponents,
    unpackSign_packComponents, Sign.ofBitVec_toBitVec]
  rw [if_neg hinfinite, if_neg hsmall]
  simp only [htoNat, hexponent, bias_eq]
  congr 1
  omega

theorem unpack_pack_large {s : Sign} {m : ℕ} {e : ℤ} (hm : 0 < m) (he : 971 < e) :
    (Float.Model.pack (.finite s m e hm)).unpack = .infinity s := by
  have hlarge : 2 ^ Format.binary64.exponentBits ≤ (e + Format.binary64.exponentBias
      + Format.binary64.mantissaBitsWithoutImplicit).toNat + 1 := by
    change 2048 ≤ (e + 1023 + 52).toNat + 1
    omega
  change UnpackedFloat.unpack Format.binary64 (UnpackedFloat.pack Format.binary64 _) = _
  rw [UnpackedFloat.pack]
  simp only
  rw [if_pos hlarge]
  cases s <;> rfl

theorem unpack_pack_zero (s : Sign) : (Float.Model.pack (.zero s)).unpack = .zero s := by
  cases s <;> rfl

theorem unpack_pack_unpack (x : Float.Model) : (Float.Model.pack x.unpack).unpack = x.unpack :=
  congrArg (UnpackedFloat.unpack Format.binary64) (pack_unpack_of_valid x.valid)

/-- What is beyond the largest double becomes an infinity, and all else stays what it is. -/
theorem Denotes.unpack_pack {u : UnpackedFloat} {q : ℚ} (h : Denotes u q) :
    (Float.Model.pack u).unpack = u ∨ (Float.Model.pack u).unpack = .infinity .positive := by
  cases h with
  | zero s => exact .inl (unpack_pack_zero s)
  | finite m e hm h =>
    by_cases he : e ≤ 971
    · rcases h.full with hfull | rfl
      · exact .inl (unpack_pack_full hm hfull h.lt h.smallest he)
      · by_cases hfull : 2 ^ 52 ≤ m
        · exact .inl (unpack_pack_full hm hfull h.lt h.smallest he)
        · exact .inl (unpack_pack_smallest hm (Nat.lt_of_not_le hfull))
    · exact .inr (unpack_pack_large hm (Int.lt_of_not_ge he))

/-! ## Doubles that are not below zero -/

/-- The number that a finite double stands for. -/
def value (x : Float) : ℚ :=
  match reading x with
  | .finite m e => m * 2 ^ e
  | _ => 0

/-- A finite double that is not below zero, and the number that it stands for. -/
def IsValue (x : Float) (q : ℚ) : Prop :=
  Denotes x.toModel.unpack q

/-- The infinity above all numbers. -/
def IsInfinite (x : Float) : Prop :=
  x.toModel.unpack = .infinity .positive

/-- A double that is not below zero. -/
def Nonneg (x : Float) : Prop :=
  IsInfinite x ∨ IsValue x (value x)

/-- A double that is not below zero nor below another number. -/
def AtLeast (x : Float) (q : ℚ) : Prop :=
  IsInfinite x ∨ ∃ a, IsValue x a ∧ q ≤ a

variable {x y z : Float} {a b q : ℚ}

theorem canonical_of_reading {m e : ℤ} (h : reading x = .finite m e) : Canonical m.natAbs e := by
  have hmagnitude : ∀ bits : ℕ, m.natAbs = (magnitude bits).1 → e = (magnitude bits).2 →
      Canonical m.natAbs e := by
    intro bits hm he
    rw [hm, he]
    simp only [magnitude, Nat.pow_eq]
    split_ifs <;> constructor <;> dsimp only <;> omega
  unfold reading at h
  dsimp only at h
  split_ifs at h with hfield hfraction hneg
  · cases h
    exact hmagnitude x.toBits.toNat (Int.natAbs_neg _) rfl
  · cases h
    exact hmagnitude x.toBits.toNat rfl rfl

theorem isInfinite_iff : IsInfinite x ↔ reading x = .infinite false := by
  rw [IsInfinite, reading_eq]
  rcases x.toModel.unpack with (_ | _) | _ | _ | _ <;> simp [ofUnpacked]

theorem isValue_iff :
    IsValue x q ↔ ∃ m e : ℤ, reading x = .finite m e ∧ 0 ≤ m ∧ m * 2 ^ e = q := by
  constructor
  · intro h
    rw [reading_eq]
    unfold IsValue at h
    generalize x.toModel.unpack = u at h ⊢
    cases h with
    | zero s => exact ⟨0, -1074, rfl, le_rfl, by simp⟩
    | finite m e hm h => exact ⟨m, e, rfl, Int.natCast_nonneg m, by simp⟩
  · rintro ⟨m, e, hreading, hm, rfl⟩
    have hcanonical := canonical_of_reading hreading
    rw [reading_eq] at hreading
    unfold IsValue
    generalize x.toModel.unpack = u at hreading ⊢
    rcases u with s | _ | s | ⟨_ | _, n, f, hn⟩ <;>
      simp only [ofUnpacked, Sign.apply, reduceCtorEq, Reading.finite.injEq] at hreading
    · obtain ⟨rfl, rfl⟩ := hreading
      simpa using Denotes.zero s
    · omega
    · obtain ⟨rfl, rfl⟩ := hreading
      simpa using Denotes.finite n f hn hcanonical

theorem IsValue.nonneg (h : IsValue x a) : 0 ≤ a := by
  obtain ⟨m, e, -, hm, rfl⟩ := isValue_iff.1 h
  positivity

theorem IsValue.eq_value (h : IsValue x a) : a = value x := by
  obtain ⟨m, e, hreading, -, rfl⟩ := isValue_iff.1 h
  rw [value, hreading]

theorem IsValue.toNonneg (h : IsValue x a) : Nonneg x :=
  .inr (h.eq_value ▸ h)

theorem IsValue.not_isInfinite (h : IsValue x a) : ¬IsInfinite x := by
  obtain ⟨m, e, hreading, -, -⟩ := isValue_iff.1 h
  rw [isInfinite_iff, hreading]
  exact Reading.noConfusion

/-- What is made of the parts of a number is that number, or beyond the largest double. -/
theorem Denotes.isValue_pack {u : UnpackedFloat} (h : Denotes u q)
    (hx : x.toModel.unpack = (Float.Model.pack u).unpack) : IsInfinite x ∨ IsValue x q := by
  unfold IsInfinite IsValue
  rw [hx]
  rcases h.unpack_pack with hu | hu
  · exact .inr (hu.symm ▸ h)
  · exact .inl hu

/-! ## Sums -/

/-- The part of a number that rounding takes off at most. -/
def roundoff : ℚ := 1 / 2 ^ 53

theorem roundoff_nonneg : 0 ≤ roundoff := by norm_num [roundoff]

theorem one_sub_roundoff_nonneg : 0 ≤ 1 - roundoff := by norm_num [roundoff]

theorem abs_mul_sub_le {n x δ : ℚ} {t : ℤ} (h : |n - x / 2 ^ t| ≤ δ) :
    |n * 2 ^ t - x| ≤ δ * 2 ^ t := by
  have hpos : (0 : ℚ) < 2 ^ t := by positivity
  have hscale : n * 2 ^ t - x = (n - x / 2 ^ t) * 2 ^ t := by
    rw [sub_mul, div_mul_cancel₀ _ hpos.ne']
  rw [hscale, abs_mul, abs_of_pos hpos]
  exact mul_le_mul_of_nonneg_right h hpos.le

/-- In units of which a number has 53 bits, one half is little of it. -/
theorem half_units_le {x : ℚ} {t : ℤ} (h : 2 ^ 52 ≤ x / 2 ^ t) : 1 / 2 * 2 ^ t ≤ x / 2 ^ 53 := by
  have hpos : (0 : ℚ) < 2 ^ t := by positivity
  rw [le_div_iff₀ hpos] at h
  rw [le_div_iff₀ (by positivity)]
  linarith

theorem log2_shiftLeft {m : ℕ} (hm : 0 < m) (k : ℕ) : (m <<< k).log2 = m.log2 + k := by
  induction k with
  | zero => rfl
  | succ k ih =>
    have hne : m <<< k ≠ 0 := by
      rw [Nat.shiftLeft_eq]
      exact (Nat.mul_pos hm (Nat.two_pow_pos k)).ne'
    rw [Nat.shiftLeft_succ, Nat.log2_two_mul hne, ih, Nat.add_assoc]

/-- Integers that are no more than one half apart are one. -/
theorem eq_of_abs_sub_le_half {m n : ℕ} (h : |(n : ℚ) - m| ≤ 1 / 2) : n = m := by
  rw [abs_le] at h
  have hle : (n : ℚ) < m + 1 := by linarith
  have hge : (m : ℚ) < n + 1 := by linarith
  norm_cast at hle hge
  omega

/-- A number that is in units of a power of two, but not of less than the smallest ones. -/
theorem denotes_round {m : ℕ} {e : ℤ} (hm : 0 < m) (he : -1074 ≤ e) :
    ∃ q, Denotes (UnpackedFloat.round Format.binary64 .positive m e) q ∧
      |q - m * 2 ^ e| ≤ m * 2 ^ e / 2 ^ 53 := by
  -- The mantissa is first lengthened by `k` bits, so that rounding only ever cuts bits off.
  obtain ⟨k, hk⟩ : ∃ k : ℕ, (e - units m e).toNat = k := ⟨_, rfl⟩
  have hunits : units (m <<< k) (e - k) = units m e := by
    simp only [units, log2_shiftLeft hm]
    push_cast
    congr 1
    ring
  have hvalue : ((m <<< k : ℕ) : ℚ) = m * 2 ^ e / 2 ^ (e - k) := by
    rw [Nat.shiftLeft_eq, zpow_sub₀ two_ne_zero, zpow_natCast]
    push_cast
    field_simp
  obtain ⟨n, hdenotes, hclose, hfull⟩ :=
    denotes_roundWithAccuracy (a := .exact) hvalue.symm (by rw [hunits]; omega)
  rw [hunits] at hdenotes hclose hfull
  refine ⟨n * 2 ^ units m e, ?_, ?_⟩
  · rw [UnpackedFloat.round]
    simp only [targetExponent_eq, decreaseExponent, hk]
    exact hdenotes
  · by_cases hle : units m e ≤ e
    · -- no bit is cut off
      have hexponent : e - k = units m e := by omega
      rw [hexponent] at hvalue
      rw [← hvalue] at hclose
      rw [eq_of_abs_sub_le_half hclose, hvalue, div_mul_cancel₀ _ (by positivity), sub_self,
        abs_zero]
      positivity
    · have hsmall : units m e ≠ -1074 := by omega
      exact (abs_mul_sub_le hclose).trans (half_units_le (hfull.resolve_left hsmall))

theorem zpow_shift (m : ℕ) {e f : ℤ} (h : f ≤ e) :
    ((m <<< (e - f).toNat : ℕ) : ℚ) * 2 ^ f = m * 2 ^ e := by
  have hpow : (2 : ℚ) ^ e = 2 ^ (e - f).toNat * 2 ^ f := by
    rw [← zpow_natCast, ← zpow_add₀ two_ne_zero]
    congr 1
    omega
  rw [Nat.shiftLeft_eq, hpow]
  push_cast
  ring

/-- The sum of two numbers is taken off by rounding, but never by more than one part in 2 ^ 53. -/
theorem denotes_add {u v : UnpackedFloat} (hu : Denotes u a) (hv : Denotes v b) :
    ∃ q, Denotes (UnpackedFloat.add Format.binary64 u v) q ∧ |q - (a + b)| ≤ (a + b) / 2 ^ 53 := by
  cases hu with
  | zero s =>
    cases hv with
    | zero s' =>
      refine ⟨0, ?_, by simp⟩
      simp only [UnpackedFloat.add]
      split_ifs <;> exact .zero _
    | finite m e hm h => exact ⟨_, .finite m e hm h, by simp; positivity⟩
  | finite m e hm h =>
    cases hv with
    | zero s => exact ⟨_, .finite m e hm h, by simp; positivity⟩
    | finite n f hn h' =>
      obtain ⟨g, hg⟩ : ∃ g, min e f = g := ⟨_, rfl⟩
      have hsum : ((m <<< (e - g).toNat + n <<< (f - g).toNat : ℕ) : ℚ) * 2 ^ g
          = m * 2 ^ e + n * 2 ^ f := by
        rw [Nat.cast_add, add_mul, zpow_shift m (by omega), zpow_shift n (by omega)]
      have hpos : 0 < m <<< (e - g).toNat + n <<< (f - g).toNat := by
        rw [Nat.shiftLeft_eq]
        exact Nat.add_pos_left (Nat.mul_pos hm (Nat.two_pow_pos _)) _
      have hsmallest : -1074 ≤ g := hg ▸ le_min h.smallest h'.smallest
      obtain ⟨q, hq, hclose⟩ := denotes_round hpos hsmallest
      rw [hsum] at hclose
      refine ⟨q, ?_, hclose⟩
      simp only [UnpackedFloat.add, decreaseExponent, hg, Sign.apply, UnpackedFloat.normalize]
      rw [← Int.natCast_add, Int.compare_eq_gt.2 (by exact_mod_cast hpos), Int.toNat_natCast]
      exact hq

theorem Denotes.infinity_add {v : UnpackedFloat} (h : Denotes v b) :
    UnpackedFloat.add Format.binary64 (.infinity .positive) v = .infinity .positive := by
  cases h <;> rfl

theorem Denotes.add_infinity {u : UnpackedFloat} (h : Denotes u a) :
    UnpackedFloat.add Format.binary64 u (.infinity .positive) = .infinity .positive := by
  cases h <;> rfl

theorem Denotes.eq_zero {u : UnpackedFloat} (h : Denotes u 0) : ∃ s, u = .zero s := by
  generalize hq : (0 : ℚ) = q at h
  cases h with
  | zero s => exact ⟨s, rfl⟩
  | finite m e hm h =>
    have hpos : (0 : ℚ) < m * 2 ^ e := by positivity
    exact absurd hq hpos.ne

theorem unpack_add (x y : Float) : (x + y).toModel.unpack = (Float.Model.pack
    (UnpackedFloat.add Format.binary64 x.toModel.unpack y.toModel.unpack)).unpack := rfl

theorem IsValue.add (hx : IsValue x a) (hy : IsValue y b) :
    IsInfinite (x + y) ∨ ∃ q, IsValue (x + y) q ∧ |q - (a + b)| ≤ (a + b) / 2 ^ 53 := by
  obtain ⟨q, hq, hclose⟩ := denotes_add hx hy
  exact (hq.isValue_pack (unpack_add x y)).imp_right fun h => ⟨q, h, hclose⟩

theorem IsInfinite.add (hx : IsInfinite x) (hy : Nonneg y) : IsInfinite (x + y) := by
  unfold IsInfinite at *
  rw [unpack_add, hx]
  rcases hy with hy | hy
  · rw [hy]
    rfl
  · rw [hy.infinity_add]
    rfl

theorem Nonneg.add_infinite (hx : Nonneg x) (hy : IsInfinite y) : IsInfinite (x + y) := by
  rcases hx with hx | hx
  · exact hx.add (.inl hy)
  · unfold IsInfinite at *
    rw [unpack_add, hy, hx.add_infinity]
    rfl

theorem Nonneg.add (hx : Nonneg x) (hy : Nonneg y) : Nonneg (x + y) := by
  rcases hx with hx | hx
  · exact .inl (hx.add hy)
  · rcases hy with hy | hy
    · exact .inl (hx.toNonneg.add_infinite hy)
    · exact (hx.add hy).imp_right fun ⟨q, hq, _⟩ => hq.eq_value ▸ hq

/-- What a finite sum is made of is finite. -/
theorem Nonneg.of_add (hx : Nonneg x) (hy : Nonneg y) (h : IsValue (x + y) q) :
    IsValue x (value x) ∧ IsValue y (value y) ∧ q ≤ (value x + value y) * (1 + roundoff) := by
  rcases hx with hx | hx
  · exact absurd (hx.add hy) h.not_isInfinite
  · rcases hy with hy | hy
    · exact absurd (hx.toNonneg.add_infinite hy) h.not_isInfinite
    · rcases hx.add hy with hinfinite | ⟨r, hr, hclose⟩
      · exact absurd hinfinite h.not_isInfinite
      · rw [h.eq_value, ← hr.eq_value]
        have hupper := (abs_le.1 hclose).2
        unfold roundoff
        exact ⟨hx, hy, by linarith⟩

theorem AtLeast.nonneg (h : AtLeast x a) : Nonneg x :=
  h.imp_right fun ⟨_, hx, _⟩ => hx.eq_value ▸ hx

theorem AtLeast.mono (h : AtLeast x a) (hb : b ≤ a) : AtLeast x b :=
  h.imp_right fun ⟨q, hq, hle⟩ => ⟨q, hq, hb.trans hle⟩

theorem AtLeast.add (hx : AtLeast x a) (hy : AtLeast y b) :
    AtLeast (x + y) ((a + b) * (1 - roundoff)) := by
  rcases hx with hx | ⟨c, hx, hac⟩
  · exact .inl (hx.add hy.nonneg)
  · rcases hy with hy | ⟨d, hy, hbd⟩
    · exact .inl (hx.toNonneg.add_infinite hy)
    · refine (hx.add hy).imp_right fun ⟨q, hq, hclose⟩ => ⟨q, hq, ?_⟩
      have hlower := (abs_le.1 hclose).1
      unfold roundoff
      linarith

/-- Adding nothing changes nothing. -/
theorem reading_add_zero (x : Float) (hy : IsValue y 0) : reading (x + y) = reading x := by
  rw [reading_eq, reading_eq, unpack_add]
  obtain ⟨s, hs⟩ := Denotes.eq_zero hy
  rw [hs]
  have hpack := unpack_pack_unpack x.toModel
  generalize x.toModel.unpack = u at hpack ⊢
  rcases u with s' | _ | s' | _
  · exact congrArg ofUnpacked hpack
  · exact congrArg ofUnpacked hpack
  · simp only [UnpackedFloat.add]
    split_ifs <;> simp only [unpack_pack_zero, ofUnpacked]
  · exact congrArg ofUnpacked hpack

/-! ## Sums of many -/

section Sums

variable {f : ι → Float} {g : ι → ℚ} {l : List ι} {s : Float}

theorem reading_foldl_of_zero (h : ∀ i ∈ l, IsValue (f i) 0) (s : Float) :
    reading (l.foldl (fun s i => s + f i) s) = reading s := by
  induction l generalizing s with
  | nil => rfl
  | cons i l ih =>
    rw [List.foldl_cons, ih (fun j hj => h j (List.mem_cons_of_mem _ hj))]
    exact reading_add_zero s (h i List.mem_cons_self)

/-- A finite sum is above the exact one by no more than each addition can make it. -/
theorem Nonneg.of_foldl (hs : Nonneg s) (hf : ∀ i ∈ l, Nonneg (f i))
    (h : IsValue (l.foldl (fun s i => s + f i) s) q) :
    IsValue s (value s) ∧ (∀ i ∈ l, IsValue (f i) (value (f i))) ∧
      q ≤ (value s + (l.map fun i => value (f i)).sum) * (1 + roundoff) ^ l.length := by
  induction l generalizing s with
  | nil =>
    have hq := h.eq_value
    rw [List.foldl_nil] at hq h
    exact ⟨hq ▸ h, by simp, by simp [hq]⟩
  | cons i l ih =>
    obtain ⟨hi, hl⟩ := List.forall_mem_cons.1 hf
    obtain ⟨hsum, hrest, hle⟩ := ih (hs.add hi) hl h
    obtain ⟨hs, hi, hstep⟩ := hs.of_add hi hsum
    refine ⟨hs, List.forall_mem_cons.2 ⟨hi, hrest⟩, hle.trans ?_⟩
    have hone : 1 ≤ 1 + roundoff := le_add_of_nonneg_right roundoff_nonneg
    have hnonneg : 0 ≤ (l.map fun i => value (f i)).sum :=
      List.sum_nonneg (by simpa using fun j hj => (hrest j hj).nonneg)
    have hgrow : (l.map fun i => value (f i)).sum
        ≤ (l.map fun i => value (f i)).sum * (1 + roundoff) := le_mul_of_one_le_right hnonneg hone
    rw [List.map_cons, List.sum_cons, List.length_cons, pow_succ', ← mul_assoc]
    refine mul_le_mul_of_nonneg_right ?_ (pow_nonneg (zero_le_one.trans hone) _)
    linarith

/-- A sum is below the exact one by no more than each addition can make it. -/
theorem AtLeast.foldl (hs : AtLeast s a) (ha : 0 ≤ a) (hf : ∀ i ∈ l, AtLeast (f i) (g i))
    (hg : ∀ i ∈ l, 0 ≤ g i) :
    AtLeast (l.foldl (fun s i => s + f i) s) ((a + (l.map g).sum) * (1 - roundoff) ^ l.length) := by
  induction l generalizing s a with
  | nil => simpa using hs
  | cons i l ih =>
    obtain ⟨hi, hl⟩ := List.forall_mem_cons.1 hf
    obtain ⟨hgi, hgl⟩ := List.forall_mem_cons.1 hg
    have hnonneg : 0 ≤ (l.map g).sum := List.sum_nonneg (by simpa using hgl)
    have hsum := ih (hs.add hi) (mul_nonneg (add_nonneg ha hgi) one_sub_roundoff_nonneg) hl hgl
    refine hsum.mono ?_
    have hshrink : (l.map g).sum * (1 - roundoff) ≤ (l.map g).sum :=
      mul_le_of_le_one_right hnonneg (sub_le_self 1 roundoff_nonneg)
    rw [List.map_cons, List.sum_cons, List.length_cons, pow_succ', ← mul_assoc]
    refine mul_le_mul_of_nonneg_right ?_ (pow_nonneg one_sub_roundoff_nonneg _)
    linarith

end Sums

/-! ## Quotients -/

theorem located_accuracyOfFraction (m : ℕ) {n : ℕ} (hn : 0 < n) :
    Located (m / n) (m / n) (accuracyOfFraction (m % n) n) := by
  have hpos : (0 : ℚ) < n := by exact_mod_cast hn
  have hsplit : (n : ℚ) * (m / n : ℕ) + (m % n : ℕ) = m := by exact_mod_cast Nat.div_add_mod m n
  have hlt : ((m % n : ℕ) : ℚ) < n := by exact_mod_cast Nat.mod_lt m hn
  rw [accuracyOfFraction]
  split_ifs with hzero
  · rw [hzero, Nat.cast_zero, add_zero] at hsplit
    rw [← hsplit, Located, mul_div_cancel_left₀ _ hpos.ne']
  · have hrest : (0 : ℚ) < (m % n : ℕ) := by exact_mod_cast Nat.pos_of_ne_zero hzero
    rcases lt_trichotomy (2 * (m % n)) n with h | h | h
    · have h' : (2 : ℚ) * (m % n : ℕ) < n := by exact_mod_cast h
      rw [Nat.compare_eq_lt.2 h, Located, lt_div_iff₀ hpos, div_lt_iff₀ hpos]
      constructor <;> linarith
    · have h' : (2 : ℚ) * (m % n : ℕ) = n := by exact_mod_cast h
      rw [Nat.compare_eq_eq.2 h, Located, div_eq_iff hpos.ne']
      linarith
    · have h' : (n : ℚ) < 2 * (m % n : ℕ) := by exact_mod_cast h
      rw [Nat.compare_eq_gt.2 h, Located, lt_div_iff₀ hpos, div_lt_iff₀ hpos]
      constructor <;> linarith

/-- The exponent that a quotient is computed with leaves it at least 53 bits, or is no larger
    than the smallest one. -/
theorem le_units_div {m n : ℕ} {e : ℤ} {k : ℕ} (hm : 0 < m) (hn : 0 < n)
    (h : e ≤ -1074 ∨ (n.log2 : ℤ) + 53 ≤ m.log2 + k) : e ≤ units (m <<< k / n) e := by
  rcases h with h | h
  · exact h.trans (smallest_le_units _ _)
  · have hquotient : 2 ^ 52 ≤ m <<< k / n := by
      rw [Nat.le_div_iff_mul_le hn, Nat.shiftLeft_eq]
      calc 2 ^ 52 * n ≤ 2 ^ 52 * 2 ^ (n.log2 + 1) :=
            Nat.mul_le_mul_left _ Nat.lt_log2_self.le
        _ = 2 ^ (n.log2 + 53) := by rw [← Nat.pow_add, Nat.add_comm, Nat.add_assoc]
        _ ≤ 2 ^ (m.log2 + k) := Nat.pow_le_pow_right two_pos (by omega)
        _ = 2 ^ m.log2 * 2 ^ k := Nat.pow_add _ _ _
        _ ≤ m * 2 ^ k := Nat.mul_le_mul_right _ (Nat.log2_self_le hm.ne')
    have hlog : 52 ≤ (m <<< k / n).log2 :=
      (Nat.le_log2 (Nat.ne_of_gt (Nat.lt_of_lt_of_le (Nat.two_pow_pos 52) hquotient))).2 hquotient
    have hunits := log2_le_units (m <<< k / n) e
    omega

/-- The quotient of two numbers is taken off by rounding by no more than one part in 2 ^ 53, and
    near zero by half of the smallest unit. -/
theorem denotes_div {u v : UnpackedFloat} (hu : Denotes u a) (hv : Denotes v b) (hb : 0 < b) :
    ∃ q, Denotes (UnpackedFloat.div Format.binary64 u v) q ∧
      |q - a / b| ≤ a / b / 2 ^ 53 + 2 ^ (-1075 : ℤ) := by
  cases hv with
  | zero s => exact absurd hb (lt_irrefl 0)
  | finite n f hn h' =>
    cases hu with
    | zero s => exact ⟨0, .zero _, by simp⟩
    | finite m e hm h =>
      -- `g` is the exponent the quotient is cut at, and `k` the shift of the dividend it needs.
      obtain ⟨g, hg⟩ : ∃ g, min (e - f)
          (max (m.log2 + 1 + e - (n.log2 + 1 + f) - 53) (-1074)) = g := ⟨_, rfl⟩
      obtain ⟨k, hk⟩ : ∃ k : ℕ, (e - f - g).toNat = k := ⟨_, rfl⟩
      have hquotient : (m * 2 ^ e / (n * 2 ^ f) : ℚ) / 2 ^ g = (m <<< k : ℕ) / n := by
        have hshift := zpow_shift m (show g ≤ e - f by omega)
        rw [hk, zpow_sub₀ two_ne_zero, ← mul_div_assoc, eq_div_iff (by positivity)] at hshift
        rw [← hshift]
        field_simp
      obtain ⟨r, hr, hclose, hfull⟩ :=
        denotes_roundWithAccuracy (hquotient ▸ located_accuracyOfFraction (m <<< k) hn)
          (le_units_div hm hn (by omega))
      refine ⟨r * 2 ^ units (m <<< k / n) g, ?_, ?_⟩
      · have hcore : divCore Format.binary64 m e n f
            = (m <<< k / n, g, accuracyOfFraction (m <<< k % n) n) := by
          rw [← hk, ← hg]
          rfl
        simp only [UnpackedFloat.div, hcore]
        exact hr
      · have hoff := abs_mul_sub_le hclose
        -- Half a unit is half the smallest subnormal, or else bounded by the quotient itself.
        rcases hfull with hsmall | hfull
        · have hhalf : (1 / 2 * 2 ^ (-1074 : ℤ) : ℚ) = 2 ^ (-1075 : ℤ) := by
            rw [show (-1074 : ℤ) = 1 + -1075 by rfl, zpow_add₀ two_ne_zero, zpow_one, ← mul_assoc,
              one_div_mul_cancel two_ne_zero, one_mul]
          have hpart : (0 : ℚ) ≤ m * 2 ^ e / (n * 2 ^ f) / 2 ^ 53 := by positivity
          rw [hsmall, hhalf] at hoff
          rw [hsmall]
          linarith
        · have hhalf := half_units_le hfull
          have hpos : (0 : ℚ) ≤ 2 ^ (-1075 : ℤ) := by positivity
          linarith

theorem unpack_div (x y : Float) : (x / y).toModel.unpack = (Float.Model.pack
    (UnpackedFloat.div Format.binary64 x.toModel.unpack y.toModel.unpack)).unpack := rfl

theorem IsValue.div (hx : IsValue x a) (hy : IsValue y b) (hb : 0 < b) :
    IsInfinite (x / y) ∨
      ∃ q, IsValue (x / y) q ∧ |q - a / b| ≤ a / b / 2 ^ 53 + 2 ^ (-1075 : ℤ) := by
  obtain ⟨q, hq, hclose⟩ := denotes_div hx hy hb
  exact (hq.isValue_pack (unpack_div x y)).imp_right fun h => ⟨q, h, hclose⟩

theorem IsValue.atLeast_div (hx : IsValue x a) (hy : IsValue y b) (hb : 0 < b) :
    AtLeast (x / y) (max 0 (a / b * (1 - roundoff) - 2 ^ (-1075 : ℤ))) := by
  refine (hx.div hy hb).imp_right fun ⟨q, hq, hclose⟩ => ⟨q, hq, max_le hq.nonneg ?_⟩
  have hlower := (abs_le.1 hclose).1
  unfold roundoff
  linarith

/-- Nothing has no part in anything. -/
theorem IsValue.zero_div (hx : IsValue x 0) (hy : IsInfinite y ∨ IsValue y b ∧ 0 < b) :
    IsValue (x / y) 0 := by
  obtain ⟨s, hs⟩ := Denotes.eq_zero hx
  obtain ⟨s', hs'⟩ : ∃ s', UnpackedFloat.div Format.binary64 x.toModel.unpack y.toModel.unpack
      = .zero s' := by
    rw [hs]
    rcases hy with hy | ⟨hy, hb⟩
    · exact ⟨_, by rw [hy]; rfl⟩
    · unfold IsValue at hy
      generalize y.toModel.unpack = v at hy ⊢
      cases hy with
      | zero s => exact absurd hb (lt_irrefl 0)
      | finite n f hn h => exact ⟨_, rfl⟩
  rw [IsValue, unpack_div, hs', unpack_pack_zero]
  exact .zero s'

end ApiJourney.Binary64
