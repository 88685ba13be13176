-- SUMMARY: Which integer numerals are read.
import ApiJourney.Number.Numeral
import ApiJourney.Proofs.Text.Parts
import Mathlib

/-!
# Integer numerals

A decimal digit of any script has a value below ten and is no blank. Such digits are read as an
integer unless they are too many; a sign in front and a line end behind do not matter.
-/

namespace ApiJourney

/-! ## Decimal digits -/

namespace Text

theorem isAsciiDigit_iff {c : Char} : isAsciiDigit c = true ↔ 48 ≤ c.toNat ∧ c.toNat ≤ 57 := by
  simp [isAsciiDigit, Char.le_def, UInt32.le_iff_toNat_le]

theorem decimalZeros_not_blank :
    ∀ z ∈ decimalZeros, ∀ i < 10, isBlank (Char.ofNat (z + i)) = false := by
  decide

/-- No digit is a blank. -/
theorem isBlank_of_isDecimal {c : Char} (h : isDecimal c = true) : isBlank c = false := by
  unfold isDecimal decimalValue? at h
  split at h
  · split at h
    · next hd =>
      have hc := isAsciiDigit_iff.1 hd
      simp only [isBlank, Bool.or_eq_false_iff, Bool.and_eq_false_iff, decide_eq_false_iff_not,
        beq_eq_false_iff_ne]
      omega
    · cases h
  · obtain ⟨z, hz⟩ : ∃ z, decimalZeros.find?
        (fun z => decide (z ≤ c.toNat) && decide (c.toNat < z + 10)) = some z := by
      simpa [Option.isSome_iff_exists] using h
    have hmem := List.mem_of_find?_eq_some hz
    have hrange := List.find?_some hz
    simp at hrange
    have := decimalZeros_not_blank z hmem (c.toNat - z) (by omega)
    rwa [Nat.add_sub_cancel' hrange.1, Char.ofNat_toNat] at this

theorem isDecimal_of_isAsciiDigit {c : Char} (h : isAsciiDigit c = true) : isDecimal c = true := by
  have hc := isAsciiDigit_iff.1 h
  rw [isDecimal, decimalValue?, if_pos (by omega), if_pos h]
  rfl

theorem beq_of_isDecimal {c d : Char} (hc : isDecimal c = true) (hd : isDecimal d = false) :
    (c == d) = false := by
  rw [beq_eq_false_iff_ne]
  rintro rfl
  simp [hc] at hd

theorem decimalValue?_lt {c : Char} {d : Nat} (h : decimalValue? c = some d) : d < 10 := by
  unfold decimalValue? at h
  split at h
  · simp only [Option.ite_none_right_eq_some, Option.some.injEq, isAsciiDigit_iff] at h
    omega
  · obtain ⟨z, hz, rfl⟩ := Option.map_eq_some_iff.1 h
    have hrange := List.find?_some hz
    simp only [Bool.and_eq_true, decide_eq_true_eq] at hrange
    omega

end Text

namespace Numeral

open Text

/-- A text has more decimal digits in a row than an integer may have. -/
def LongDigits (cs : List Char) : Prop :=
  HasRun isDecimal maxDigits cs

/-- One digit more than an integer may have. -/
def nines : List Char :=
  List.replicate (maxDigits + 1) '9'

theorem nines_decimal : ∀ d ∈ nines, isDecimal d = true := by
  intro d hd
  rw [List.eq_of_mem_replicate hd]
  rfl

theorem nines_long : maxDigits < nines.length := by
  rw [nines, List.length_replicate]
  exact Nat.lt_succ_self _

/-! ## Preparation -/

theorem normalized_append (cs ds : List Char) :
    normalized (cs ++ ds) = normalized cs ++ normalized ds :=
  List.map_append

theorem length_normalized (cs : List Char) : (normalized cs).length = cs.length :=
  List.length_map _

theorem isAsciiDigit_ofNat : ∀ d < 10, isAsciiDigit (Char.ofNat (48 + d)) = true := by
  decide

theorem normalized_digits {ds : List Char} (h : ∀ c ∈ ds, isDecimal c = true) :
    ∀ c ∈ normalized ds, isAsciiDigit c = true := by
  intro c hc
  obtain ⟨d, hd, rfl⟩ := List.mem_map.1 hc
  have hdecimal := h d hd
  obtain ⟨v, hv⟩ := Option.isSome_iff_exists.1 hdecimal
  have hvalue := hv
  simp only [isBlank_of_isDecimal hdecimal]
  split
  · next hlt =>
    rw [decimalValue?, if_pos (by omega)] at hv
    simpa using (Option.ite_none_right_eq_some.1 hv).1
  · rw [hvalue]
    exact isAsciiDigit_ofNat v (decimalValue?_lt hvalue)

/-! ## Digits -/

theorem digitValue?_digit {c : Char} (h : isAsciiDigit c = true) : (digitValue? 10 c).isSome := by
  have hc := isAsciiDigit_iff.1 h
  unfold isAsciiDigit at h
  rw [digitValue?, if_pos h]
  simp only [Option.filter_some, Option.isSome_ite]
  simp only [decide_eq_true_eq]
  omega

theorem digits?_digits {ds : List Char} (h : ∀ c ∈ ds, isAsciiDigit c = true) (after : Bool)
    (hne : after = true ∨ ds ≠ []) :
    ∃ vs, digits? 10 after ds = some vs ∧ vs.length = ds.length := by
  induction ds generalizing after with
  | nil =>
    obtain rfl : after = true := hne.resolve_right fun h => h rfl
    exact ⟨[], rfl, rfl⟩
  | cons c ds ih =>
    rw [List.forall_mem_cons] at h
    obtain ⟨vs, hvs, hlength⟩ := ih h.2 true (.inl rfl)
    obtain ⟨d, hd⟩ := Option.isSome_iff_exists.1 (digitValue?_digit h.1)
    refine ⟨d :: vs, ?_, by simp [hlength]⟩
    rw [digits?, hd, hvs]
    · rfl
    · rintro rfl
      cases hd

/-! ## Integers -/

theorem stripped_append {cs tail : List Char} (hne : cs ≠ [])
    (hcs : ∀ c ∈ cs, isAsciiBlank c = false) (htail : ∀ c ∈ tail, isAsciiBlank c = true) :
    stripped (cs ++ tail) = cs := by
  have hfront : (cs ++ tail).dropWhile isAsciiBlank = cs ++ tail := by
    cases cs with
    | nil => exact absurd rfl hne
    | cons c cs => rw [List.cons_append, List.dropWhile_cons_of_neg (by simp [hcs c])]
  have hback : cs.reverse.dropWhile isAsciiBlank = cs.reverse := by
    refine List.dropWhile_eq_self_iff.2 fun hlength => ?_
    simp [hcs]
  rw [stripped, hfront, dropEndWhile, List.reverse_append, List.dropWhile_append_of_pos, hback,
    List.reverse_reverse]
  simpa using htail

theorem marker?_digits {ds : List Char} (h : ∀ c ∈ ds, isAsciiDigit c = true) :
    marker? ds = none := by
  unfold marker?
  split
  · next c rest =>
    have hc := isAsciiDigit_iff.1 (h c (by simp))
    have hne : ∀ letter : Char, 57 < letter.toNat → (c == letter) = false := by
      intro letter hletter
      rw [beq_eq_false_iff_ne]
      rintro rfl
      omega
    simp [hne]
  · rfl

theorem unsigned?_digits {ds : List Char} (hne : ds ≠ []) (h : ∀ c ∈ ds, isAsciiDigit c = true) :
    unsigned? 10 ds = none ↔ maxDigits < ds.length := by
  obtain ⟨vs, hvs, hlength⟩ := digits?_digits h false (.inr hne)
  simp only [unsigned?, marker?_digits h]
  rw [if_neg (by decide), if_neg (by decide), hvs]
  by_cases hlong : maxDigits < ds.length
  · simp [isPowerOfTwo, hlength, hlong]
  · simp [isPowerOfTwo, hlength, hlong]

theorem isAsciiBlank_digit {c : Char} (h : isAsciiDigit c = true) : isAsciiBlank c = false := by
  have hc := isAsciiDigit_iff.1 h
  have hspace : c ≠ ' ' := by
    rintro rfl
    revert hc
    decide
  simp only [isAsciiBlank, Bool.or_eq_false_iff, beq_eq_false_iff_ne, Bool.and_eq_false_iff,
    decide_eq_false_iff_not]
  exact ⟨hspace, by omega⟩

theorem splitSign_digits {sign ds : List Char} (hsign : sign = [] ∨ sign = ['-'])
    (h : ∀ c ∈ ds, isAsciiDigit c = true) :
    ∃ negative, splitSign (sign ++ ds) = (negative, ds) := by
  rcases hsign with rfl | rfl
  · refine ⟨false, ?_⟩
    rw [List.nil_append]
    unfold splitSign
    split
    · exact absurd (h '-' (by simp)) (by decide)
    · exact absurd (h '+' (by simp)) (by decide)
    · rfl
  · exact ⟨true, rfl⟩

/-- Digits with a sign in front and a line end behind are read unless they are too many. -/
theorem integer?_digits {sign ds tail : List Char} (hsign : sign = [] ∨ sign = ['-'])
    (htail : tail = [] ∨ tail = ['\n']) (hne : ds ≠ []) (h : ∀ c ∈ ds, isDecimal c = true) :
    integer? 10 (sign ++ ds ++ tail) = none ↔ maxDigits < ds.length := by
  have hdigits := normalized_digits h
  have hsign' : normalized sign = sign := by rcases hsign with rfl | rfl <;> rfl
  have htail' : normalized tail = tail := by rcases htail with rfl | rfl <;> rfl
  have hne' : normalized ds ≠ [] := by simpa [normalized] using hne
  -- Neither the sign nor a digit is a blank, so stripping takes the line break only.
  have hstripped : stripped (normalized (sign ++ ds ++ tail)) = sign ++ normalized ds := by
    rw [normalized_append, normalized_append, hsign', htail']
    refine stripped_append (by simp [hne']) ?_ ?_
    · intro c hc
      rcases List.mem_append.1 hc with hc | hc
      · rcases hsign with rfl | rfl
        · cases hc
        · obtain rfl := List.mem_singleton.1 hc
          rfl
      · exact isAsciiBlank_digit (hdigits c hc)
    · rcases htail with rfl | rfl <;> simp [isAsciiBlank]
  obtain ⟨negative, hsplit⟩ := splitSign_digits hsign hdigits
  rw [integer?, hstripped, hsplit, ← length_normalized ds, ← unsigned?_digits hne' hdigits]
  dsimp only
  cases unsigned? 10 (normalized ds) with
  | none => exact iff_of_true rfl rfl
  | some n => exact iff_of_false (Option.some_ne_none _) (Option.some_ne_none _)

theorem integer?_bareDigits {ds : List Char} (hne : ds ≠ []) (h : ∀ c ∈ ds, isDecimal c = true) :
    integer? 10 ds = none ↔ maxDigits < ds.length := by
  have hread := integer?_digits (.inl rfl) (.inl rfl) hne h
  rwa [List.nil_append, List.append_nil] at hread

/-! ## Values of digits -/

theorem digitValue?_eq {c : Char} (h : isAsciiDigit c = true) :
    digitValue? 10 c = some (c.toNat - 48) := by
  have hc := isAsciiDigit_iff.1 h
  have hless : c.toNat - 48 < 10 := by omega
  unfold isAsciiDigit at h
  rw [digitValue?, if_pos h, Option.filter_some, if_pos (by simpa using hless)]

theorem normalized_of_isAsciiDigit {ds : List Char} (h : ∀ c ∈ ds, isAsciiDigit c = true) :
    normalized ds = ds := by
  refine (List.map_congr_left fun c hc => ?_).trans (List.map_id ds)
  have hrange := isAsciiDigit_iff.1 (h c hc)
  exact if_pos (by omega)

/-- The digits in front have their values in front. -/
theorem map_prefix_of_digits? {ds rest : List Char} (h : ∀ c ∈ ds, isAsciiDigit c = true)
    {after : Bool} {vs : List Nat} (hvs : digits? 10 after (ds ++ rest) = some vs) :
    (ds.map fun c => c.toNat - 48) <+: vs := by
  induction ds generalizing after vs with
  | nil => exact List.nil_prefix
  | cons c ds ih =>
    rw [List.forall_mem_cons] at h
    rw [List.cons_append, digits?, digitValue?_eq h.1] at hvs
    · obtain ⟨more, hmore, rfl⟩ := Option.map_eq_some_iff.1 hvs
      exact (List.prefix_cons_inj _).2 (ih h.2 hmore)
    · rintro rfl
      exact absurd h.1 (by decide)

/-- Digits in front of others stand for an integer that is no greater. -/
theorem ofDigits_le_of_front {base : Nat} (hbase : 0 < base) {xs ys : List Nat} (h : xs <+: ys) :
    ofDigits base xs ≤ ofDigits base ys := by
  obtain ⟨zs, rfl⟩ := h
  rw [ofDigits, ofDigits, List.foldl_append]
  generalize xs.foldl (fun acc d => acc * base + d) 0 = acc
  induction zs generalizing acc with
  | nil => exact le_rfl
  | cons z zs ih =>
    rw [List.foldl_cons]
    exact ((Nat.le_mul_of_pos_right _ hbase).trans (Nat.le_add_right _ _)).trans (ih _)

theorem ofDigits_concat (base : Nat) (ds : List Nat) (d : Nat) :
    ofDigits base (ds ++ [d]) = ofDigits base ds * base + d := by
  rw [ofDigits, List.foldl_append]
  rfl

theorem ofDigits_lt_pow {base : Nat} {ds : List Nat} (h : ∀ d ∈ ds, d < base) :
    ofDigits base ds < base ^ ds.length := by
  induction ds using List.reverseRecOn with
  | nil => exact Nat.one_pos
  | append_singleton ds d ih =>
    rw [List.forall_mem_append, List.forall_mem_singleton] at h
    have hfront := Nat.mul_le_mul_right base (Nat.succ_le_of_lt (ih h.1))
    have hlast := h.2
    rw [ofDigits_concat, List.length_append, List.length_singleton, Nat.pow_succ]
    rw [Nat.succ_mul] at hfront
    omega

theorem digitValue?_getD_lt {base : Nat} (hbase : 0 < base) (c : Char) :
    (digitValue? base c).getD 0 < base := by
  cases hv : digitValue? base c with
  | none => exact hbase
  | some v => exact of_decide_eq_true (Option.filter_eq_some_iff.1 hv).2

theorem unsigned?_eq_some {ds : List Char} (h : ∀ c ∈ ds, isAsciiDigit c = true) {n : Nat}
    (hn : unsigned? 10 ds = some n) : ∃ vs, digits? 10 false ds = some vs ∧ n = ofDigits 10 vs := by
  simp only [unsigned?, marker?_digits h] at hn
  rw [if_neg (by decide), if_neg (by decide)] at hn
  obtain ⟨vs, hvs, hn⟩ := Option.bind_eq_some_iff.1 hn
  split_ifs at hn
  exact ⟨vs, hvs, (Option.some.inj hn).symm⟩

/-- Digits stand for an integer that is no smaller than that of those in front. -/
theorem ofDigits_le_of_integer? {ds rest : List Char} {n : Int}
    (h : ∀ c ∈ ds, isAsciiDigit c = true) (hrest : ∀ c ∈ ds ++ rest, isDecimal c = true)
    (hn : integer? 10 (ds ++ rest) = some n) :
    (ofDigits 10 (ds.map fun c => c.toNat - 48) : Int) ≤ n := by
  have hdigits := normalized_digits hrest
  have hstripped : stripped (normalized (ds ++ rest)) = normalized (ds ++ rest) := by
    rcases List.eq_nil_or_concat' (ds ++ rest) with hnil | ⟨_, _, hconcat⟩
    · rw [hnil]
      rfl
    · have hne : normalized (ds ++ rest) ≠ [] := by
        rw [hconcat]
        simp [normalized]
      have hstripped : stripped (normalized (ds ++ rest) ++ []) = normalized (ds ++ rest) :=
        stripped_append hne (fun c hc => isAsciiBlank_digit (hdigits c hc))
          (List.forall_mem_nil _)
      rwa [List.append_nil] at hstripped
  have hsplit : splitSign (normalized (ds ++ rest)) = (false, normalized (ds ++ rest)) := by
    unfold splitSign
    split
    · next heq => exact absurd (hdigits '-' (heq ▸ List.mem_cons_self)) (by decide)
    · next heq => exact absurd (hdigits '+' (heq ▸ List.mem_cons_self)) (by decide)
    · rfl
  rw [integer?, hstripped, hsplit] at hn
  obtain ⟨k, hk, hn⟩ := Option.bind_eq_some_iff.1 hn
  -- The digits in front are a prefix of all that are read, and more digits only make more.
  obtain ⟨vs, hvs, rfl⟩ := unsigned?_eq_some hdigits hk
  rw [normalized_append, normalized_of_isAsciiDigit h] at hvs
  rw [← Option.some.inj hn]
  exact Int.ofNat_le.2 (ofDigits_le_of_front (by decide) (map_prefix_of_digits? h hvs))

end Numeral

end ApiJourney
