-- SUMMARY: Integers written in decimal digits, and that they are read back.
import ApiJourney.Proofs.Number.Numeral
import ApiJourney.Value.Display
import Mathlib

/-!
# Written integers

An integer is written as its decimal digits behind a minus sign if it is negative. The digits
stand for its magnitude, and as long as they are not too many the numeral is read as the integer.
-/

namespace ApiJourney.Numeral

open Text

/-! ## Digits -/

/-- An integer of no more digits than a numeral may have. -/
def Short (n : Int) : Prop :=
  n.natAbs < 10 ^ maxDigits

theorem short_of_lt {n : Int} {k : Nat} (hk : k ≤ maxDigits) (hn : n.natAbs < 10 ^ k) : Short n :=
  hn.trans_le (Nat.pow_le_pow_right (by decide) hk)

theorem intText?_of_short {n : Int} (h : Short n) : Value.intText? n = some (toString n) := by
  rw [Value.intText?, Nat.pow_eq, if_neg (Nat.not_le.2 h)]

/-- What stands in front of the digits of an integer. -/
def signOf (n : Int) : List Char :=
  if n < 0 then ['-'] else []

/-- The digits of an integer, the most significant first. -/
def digitsOf (n : Int) : List Char :=
  Nat.toDigits 10 n.natAbs

theorem toList_toString (n : Int) : (toString n).toList = signOf n ++ digitsOf n := by
  rw [Int.toString_eq_repr, Int.repr_eq_if, signOf, digitsOf]
  by_cases h : n < 0
  · have habs : (-n).toNat = n.natAbs := by omega
    rw [if_neg (by omega), if_pos h, String.toList_append, Nat.toList_repr, habs]
    rfl
  · have habs : n.toNat = n.natAbs := by omega
    rw [if_pos (by omega), if_neg h, Nat.toList_repr, habs]
    rfl

theorem digitsOf_ne_nil (n : Int) : digitsOf n ≠ [] :=
  Nat.toDigits_ne_nil

/-- The first digit is no zero, unless there is no other one. -/
theorem digitsOf_first (n : Int) :
    digitsOf n = ['0'] ∨ ∃ c ds, digitsOf n = c :: ds ∧ c ≠ '0' := by
  have hdigit : ∀ k < 10, 0 < k → Nat.digitChar k ≠ '0' := by decide
  have hpos : ∀ k : Nat, 0 < k → ∃ c ds, Nat.toDigits 10 k = c :: ds ∧ c ≠ '0' := by
    intro k
    induction k using Nat.strongRecOn with
    | _ k ih =>
      intro hk
      by_cases hlt : k < 10
      · exact ⟨k.digitChar, [], Nat.toDigits_of_lt_base hlt, hdigit k hlt hk⟩
      · obtain ⟨c, ds, hds, hc⟩ := ih (k / 10) (by omega) (by omega)
        rw [Nat.toDigits_of_base_le (by decide) (by omega), hds]
        exact ⟨c, _, List.cons_append, hc⟩
  rcases Nat.eq_zero_or_pos n.natAbs with h | h
  · left
    rw [digitsOf, h, Nat.toDigits_zero]
  · exact .inr (hpos _ h)

theorem isAsciiDigit_of_mem_digitsOf {n : Int} : ∀ c ∈ digitsOf n, isAsciiDigit c = true := by
  intro c hc
  have hdigit := Nat.isDigit_of_mem_toDigits (by decide) (by decide) hc
  rw [Char.isDigit_iff_toNat] at hdigit
  exact isAsciiDigit_iff.2 hdigit

theorem length_digitsOf_le {n : Int} : (digitsOf n).length ≤ maxDigits ↔ Short n :=
  Nat.length_toDigits_le_iff (by decide) (by decide)

/-- The digits of an integer stand for its magnitude. -/
theorem ofDigits_digitsOf (n : Int) :
    ofDigits 10 ((digitsOf n).map fun c => c.toNat - 48) = n.natAbs := by
  have hfold : ∀ (ds : List Char) (acc : Nat),
      (ds.map fun c => c.toNat - 48).foldl (fun acc d => acc * 10 + d) acc =
        Nat.ofDigitChars 10 ds acc := by
    intro ds
    induction ds with
    | nil => exact fun _ => rfl
    | cons c ds ih =>
      intro acc
      rw [List.map_cons, List.foldl_cons, ih, Nat.ofDigitChars_cons, Nat.mul_comm]
      rfl
  rw [ofDigits, hfold]
  exact Nat.ofDigitChars_ten_toDigits

theorem signed_natAbs (n : Int) : (if n < 0 then -(n.natAbs : Int) else n.natAbs) = n := by
  split <;> omega

/-! ## Reading -/

theorem normalized_ascii {cs : List Char} (h : ∀ c ∈ cs, c.toNat < 127) : normalized cs = cs := by
  refine (List.map_congr_left fun c hc => ?_).trans (List.map_id cs)
  rw [if_pos (h c hc)]
  rfl

theorem digits?_eq_some {ds : List Char} (h : ∀ c ∈ ds, isAsciiDigit c = true) {after : Bool}
    (hne : after = true ∨ ds ≠ []) :
    digits? 10 after ds = some (ds.map fun c => c.toNat - 48) := by
  induction ds generalizing after with
  | nil =>
    obtain rfl : after = true := hne.resolve_right fun h => h rfl
    rfl
  | cons c ds ih =>
    rw [List.forall_mem_cons] at h
    have hc := isAsciiDigit_iff.1 h.1
    have hvalue : digitValue? 10 c = some (c.toNat - 48) := by
      have hrange := h.1
      unfold isAsciiDigit at hrange
      rw [digitValue?, if_pos hrange]
      exact Option.filter_some_pos (by simp only [decide_eq_true_eq]; omega)
    rw [digits?, hvalue, ih h.2 (.inl rfl)]
    · rfl
    · rintro rfl
      cases hvalue

/-- The characters of a written integer are no blanks and none that is taken for another. -/
theorem mem_toString {n : Int} {c : Char} (hc : c ∈ (toString n).toList) :
    c = '-' ∨ isAsciiDigit c = true := by
  rw [toList_toString, List.mem_append] at hc
  rcases hc with hc | hc
  · rw [signOf] at hc
    split at hc
    · exact .inl (List.mem_singleton.1 hc)
    · cases hc
  · exact .inr (isAsciiDigit_of_mem_digitsOf c hc)

/-- A written integer is read, unless it has too many digits. -/
theorem integer?_toString {n : Int} (h : Short n) : integer? 10 (toString n).toList = some n := by
  have hdigits := isAsciiDigit_of_mem_digitsOf (n := n)
  have hascii : normalized (toString n).toList = (toString n).toList := by
    refine normalized_ascii fun c hc => ?_
    rcases mem_toString hc with rfl | hc
    · decide
    · have := isAsciiDigit_iff.1 hc
      omega
  have hstripped : stripped (toString n).toList = (toString n).toList := by
    have hne : (toString n).toList ≠ [] := by
      rw [toList_toString]
      simp [digitsOf_ne_nil]
    have hblank : ∀ c ∈ (toString n).toList, isAsciiBlank c = false := by
      intro c hc
      rcases mem_toString hc with rfl | hc
      · rfl
      · exact isAsciiBlank_digit hc
    simpa using stripped_append hne hblank (List.forall_mem_nil _)
  have hsplit : splitSign (toString n).toList = (decide (n < 0), digitsOf n) := by
    rw [toList_toString, signOf]
    by_cases hn : n < 0
    · rw [if_pos hn, decide_eq_true hn]
      rfl
    · rw [if_neg hn, decide_eq_false hn, List.nil_append]
      unfold splitSign
      split
      · next hcons => exact absurd (hdigits '-' (hcons ▸ List.mem_cons_self)) (by decide)
      · next hcons => exact absurd (hdigits '+' (hcons ▸ List.mem_cons_self)) (by decide)
      · rfl
  have hread : unsigned? 10 (digitsOf n) = some n.natAbs := by
    have hlength := Nat.not_lt.2 (length_digitsOf_le.2 h)
    simp only [unsigned?, marker?_digits hdigits]
    rw [if_neg (by decide), if_neg (by decide),
      digits?_eq_some hdigits (.inr (digitsOf_ne_nil n))]
    simp [isPowerOfTwo, hlength, ofDigits_digitsOf]
  -- The reader normalizes, strips, takes the sign and then the digits, each step as above.
  rw [integer?, hascii, hstripped, hsplit]
  dsimp only
  rw [hread]
  simpa using signed_natAbs n

end ApiJourney.Numeral
