-- SUMMARY: Selections pick profiles with a weight unless the sum of the shares is too small.
import ApiJourney.Proofs.Number.Rounding
import ApiJourney.Proofs.Profile.Run

/-!
# Selections

A selection picks the first profile with a weight whose cumulative share reaches a number. A
profile without a weight has no share, so behind the last one with a weight the sum of the shares
stays as it is: when it reaches the number, a profile with a weight is picked. It is nearly 1,
since no rounding takes off more than one part in 2 ^ 53, unless the sum of the weights is an
infinity. Only where the sum of the shares stays below the number the last profile is picked,
with or without a weight.
-/

namespace ApiJourney

open Binary64

/-! ## Order -/

namespace Reading

/-- Whether a number is no more than another; a NaN never is. -/
def IsAtMost : Reading → ℚ → Prop
  | .finite m e, q => m * 2 ^ e ≤ q
  | .infinite negative, _ => negative = true
  | .nan, _ => False

theorem order_finite (m e n f : ℤ) :
    order (.finite m e) (.finite n f) = some (compare ((m : ℚ) * 2 ^ e) (n * 2 ^ f)) := by
  have hpos : (0 : ℚ) < 2 ^ min e f := by positivity
  rw [order, ← inUnits_mul (min_le_left e f), ← inUnits_mul (min_le_right e f)]
  rcases lt_trichotomy (inUnits m e (min e f)) (inUnits n f (min e f)) with h | h | h
  · have hlt : (inUnits m e (min e f) : ℚ) < inUnits n f (min e f) := by exact_mod_cast h
    rw [compare_lt_iff_lt.2 h, compare_lt_iff_lt.2 (mul_lt_mul_of_pos_right hlt hpos)]
  · rw [h, compare_eq_iff_eq.2 rfl, compare_eq_iff_eq.2 rfl]
  · have hlt : (inUnits n f (min e f) : ℚ) < inUnits m e (min e f) := by exact_mod_cast h
    rw [compare_gt_iff_gt.2 h, compare_gt_iff_gt.2 (mul_lt_mul_of_pos_right hlt hpos)]

end Reading

theorem Schema.reaches_zero_iff {strict : Bool} {x : Float} :
    reaches strict 0 x = true ↔ IsInfinite x ∨ ∃ q, IsValue x q ∧ (strict = true → 0 < q) := by
  simp only [isInfinite_iff, isValue_iff, reaches, Reading.ofInt]
  cases h : reading x with
  | nan => simp [Reading.order]
  | infinite negative => cases negative <;> simp [Reading.order]
  | finite m e =>
    have hpos : (0 : ℚ) < 2 ^ e := by positivity
    simp only [Reading.order_finite, reduceCtorEq, false_or, Reading.finite.injEq, Int.cast_zero,
      zero_mul]
    rcases lt_trichotomy m 0 with hm | rfl | hm
    · have hneg : (m : ℚ) * 2 ^ e < 0 := mul_neg_of_neg_of_pos (by exact_mod_cast hm) hpos
      rw [compare_lt_iff_lt.2 hneg]
      simp only [false_iff, Bool.false_eq_true]
      rintro ⟨q, ⟨n, f, ⟨rfl, rfl⟩, hn, -⟩, -⟩
      exact absurd hn (not_le.2 hm)
    · rw [Int.cast_zero, zero_mul, compare_eq_iff_eq.2 rfl]
      cases strict <;> simp
    · have hgt : (0 : ℚ) < m * 2 ^ e := mul_pos (by exact_mod_cast hm) hpos
      rw [compare_gt_iff_gt.2 hgt]
      exact iff_of_true rfl ⟨_, ⟨m, e, ⟨rfl, rfl⟩, hm.le, rfl⟩, fun _ => hgt⟩

namespace Distributor

variable {F : Faker} {ps : List Profile} {total sum : Float} {r : Reading}

theorem atMost_of_atLeast {x : Float} {q : ℚ} (hr : r.IsAtMost q) (hx : AtLeast x q) :
    atMost r (reading x) = true := by
  rcases hx with hx | ⟨a, hx, hle⟩
  · rw [isInfinite_iff.1 hx]
    rcases r with ⟨m, e⟩ | negative | _
    · rfl
    · cases hr
      rfl
    · exact hr.elim
  · obtain ⟨n, f, hreading, -, rfl⟩ := isValue_iff.1 hx
    rw [hreading]
    rcases r with ⟨m, e⟩ | negative | _
    · have hmax : (m : ℚ) * 2 ^ e ≤ n * 2 ^ f := le_trans hr hle
      rw [atMost, Reading.order_finite]
      rcases hmax.lt_or_eq with h | h
      · rw [compare_lt_iff_lt.2 h]
      · rw [compare_eq_iff_eq.2 h]
    · cases hr
      rfl
    · exact hr.elim

/-! ## Weights -/

theorem isPositive_iff {x : Float} :
    isPositive x = true ↔ IsInfinite x ∨ ∃ q, IsValue x q ∧ 0 < q := by
  simp [isPositive, Schema.reaches_zero_iff]

theorem nonneg_iff {x : Float} : Schema.reaches false 0 x = true ↔ Nonneg x := by
  rw [Schema.reaches_zero_iff, Nonneg]
  refine or_congr_right ⟨fun ⟨q, hq, _⟩ => hq.eq_value ▸ hq, fun h => ⟨_, h, nofun⟩⟩

theorem isValue_zero {x : Float} (h : Nonneg x) (hx : isPositive x = false) : IsValue x 0 := by
  rw [← Bool.not_eq_true, isPositive_iff] at hx
  rcases h with h | h
  · exact absurd (.inl h) hx
  · have hzero : value x = 0 :=
      (h.nonneg.lt_or_eq.resolve_left fun hlt => hx (.inr ⟨_, h, hlt⟩)).symm
    exact hzero ▸ h

theorem isPositive_congr {x y : Float} (h : reading x = reading y) :
    isPositive x = isPositive y := by
  rw [isPositive, isPositive, Schema.reaches, Schema.reaches, h]

/-! ## Shares -/

/-- The sum of the shares of profiles as it is computed, on top of another one. -/
def sumOfShares (total sum : Float) (ps : List Profile) : Float :=
  ps.foldl (fun s p => s + p.weight / total) sum

theorem getLast?_sharesFrom (total sum : Float) (hne : ps ≠ []) :
    ∃ s, (sharesFrom total sum ps).getLast? = some s ∧
      s.cumulative = sumOfShares total sum ps ∧ ps.getLast? = some s.profile := by
  induction ps generalizing sum with
  | nil => exact absurd rfl hne
  | cons p rest ih =>
    cases rest with
    | nil => exact ⟨_, rfl, rfl, rfl⟩
    | cons q rest =>
      obtain ⟨s, hlast, hsum, hprofile⟩ := ih (sum + p.weight / total) (List.cons_ne_nil q rest)
      refine ⟨s, ?_, hsum, ?_⟩
      · rw [sharesFrom, List.getLast?_cons, hlast]
        rfl
      · rw [List.getLast?_cons, hprofile]
        rfl

/-- A profile without a weight has no share. -/
theorem isValue_share {p : Profile} (htotal : isPositive total = true) (hp : Nonneg p.weight)
    (hweight : isPositive p.weight = false) : IsValue (p.weight / total) 0 := by
  obtain ⟨b, hb⟩ : ∃ b, IsInfinite total ∨ IsValue total b ∧ 0 < b := by
    rcases isPositive_iff.1 htotal with h | ⟨q, hq, hpos⟩
    · exact ⟨0, .inl h⟩
    · exact ⟨q, .inr ⟨hq, hpos⟩⟩
  exact (isValue_zero hp hweight).zero_div hb

/-- When the sum of all shares reaches a number, then so does a sum up to the share of a profile
    with a weight: behind the last one of these the sum stays as it is. -/
theorem exists_reached (htotal : isPositive total = true) (hps : ∀ p ∈ ps, Nonneg p.weight)
    (hweight : ∃ p ∈ ps, isPositive p.weight = true)
    (hr : atMost r (reading (sumOfShares total sum ps)) = true) :
    ∃ s ∈ sharesFrom total sum ps,
      atMost r (reading s.cumulative) = true ∧ isPositive s.profile.weight = true := by
  induction ps generalizing sum with
  | nil => simp at hweight
  | cons p rest ih =>
    obtain ⟨hp, hrest⟩ := List.forall_mem_cons.1 hps
    by_cases hlater : ∃ q ∈ rest, isPositive q.weight = true
    · obtain ⟨s, hs, hreached⟩ := ih hrest hlater hr
      exact ⟨s, List.mem_cons_of_mem _ hs, hreached⟩
    · -- the last profile with a weight is this one: nothing is added behind it
      have hnone : ∀ q ∈ rest, IsValue (q.weight / total) 0 := fun q hq =>
        isValue_share htotal (hrest q hq) <| by
          simpa using fun hpos => hlater ⟨q, hq, hpos⟩
      rw [sumOfShares, List.foldl_cons, reading_foldl_of_zero hnone] at hr
      obtain ⟨q, hq, hpos⟩ := hweight
      rcases List.mem_cons.1 hq with rfl | hq
      · exact ⟨_, List.mem_cons_self, hr, hpos⟩
      · exact absurd ⟨q, hq, hpos⟩ hlater

theorem exists_isPositive (hps : ∀ p ∈ ps, Nonneg p.weight)
    (h : isPositive (totalWeight ps) = true) : ∃ p ∈ ps, isPositive p.weight = true := by
  by_contra hnone
  have hzero : ∀ p ∈ ps, IsValue p.weight 0 := fun p hp =>
    isValue_zero (hps p hp) (by simpa using fun hpos => hnone ⟨p, hp, hpos⟩)
  rw [totalWeight, isPositive_congr (reading_foldl_of_zero hzero _)] at h
  exact absurd h (by decide +kernel)

/-! ## The sum of all shares -/

theorem le_sum_max (f : ι → ℚ) (η : ℚ) (l : List ι) :
    (l.map f).sum - l.length * η ≤ (l.map fun i => max 0 (f i - η)).sum := by
  induction l with
  | nil => simp
  | cons i l ih =>
    have hmax := le_max_right 0 (f i - η)
    simp only [List.map_cons, List.sum_cons, List.length_cons]
    push_cast
    linarith

/-- A total that was rounded up is nearly all of the exact one. -/
theorem pow_le_div {w t : ℚ} {n : ℕ} (ht : 0 < t) (hle : t ≤ w * (1 + roundoff) ^ n) :
    (1 - roundoff) ^ n ≤ w / t := by
  have hgrow : 0 < (1 + roundoff) ^ n := pow_pos (by linarith [roundoff_nonneg]) n
  have hw : 0 ≤ w := (pos_of_mul_pos_left (ht.trans_le hle) hgrow.le).le
  have hsquare : ((1 - roundoff) * (1 + roundoff)) ^ n ≤ 1 :=
    pow_le_one₀ (by norm_num [roundoff]) (by norm_num [roundoff])
  rw [le_div_iff₀ ht]
  calc (1 - roundoff) ^ n * t ≤ (1 - roundoff) ^ n * (w * (1 + roundoff) ^ n) :=
        mul_le_mul_of_nonneg_left hle (pow_nonneg one_sub_roundoff_nonneg n)
    _ = w * ((1 - roundoff) * (1 + roundoff)) ^ n := by rw [mul_pow]; ring
    _ ≤ w := mul_le_of_le_one_right hw hsquare

theorem one_sub_mul_le_pow (n : ℕ) : 1 - n * roundoff ≤ (1 - roundoff) ^ n := by
  have h := one_add_mul_le_pow (show (-2 : ℚ) ≤ -roundoff by norm_num [roundoff]) n
  rwa [← sub_eq_add_neg, mul_neg, ← sub_eq_add_neg] at h

/-- Shares of a total that was rounded up, each rounded down and then summed up, are still nearly
    all of it. -/
theorem le_rounded_shares {w t η : ℚ} {n : ℕ} (ht : 0 < t) (hle : t ≤ w * (1 + roundoff) ^ n)
    (hη : 0 ≤ η) (hη' : η ≤ roundoff) :
    1 - (3 * n + 1) * roundoff ≤ (w / t * (1 - roundoff) - n * η) * (1 - roundoff) ^ n := by
  have hpow : 0 ≤ (1 - roundoff) ^ n := pow_nonneg one_sub_roundoff_nonneg n
  have hpow_le : (1 - roundoff) ^ n ≤ 1 :=
    pow_le_one₀ one_sub_roundoff_nonneg (sub_le_self 1 roundoff_nonneg)
  have hmain : (1 - roundoff) ^ (2 * n + 1) ≤ w / t * (1 - roundoff) * (1 - roundoff) ^ n := by
    calc (1 - roundoff) ^ (2 * n + 1)
        = (1 - roundoff) ^ n * (1 - roundoff) * (1 - roundoff) ^ n := by ring
      _ ≤ w / t * (1 - roundoff) * (1 - roundoff) ^ n :=
        mul_le_mul_of_nonneg_right
          (mul_le_mul_of_nonneg_right (pow_le_div ht hle) one_sub_roundoff_nonneg) hpow
  have hsmall : n * η * (1 - roundoff) ^ n ≤ n * roundoff := by
    calc n * η * (1 - roundoff) ^ n ≤ n * η := mul_le_of_le_one_right (by positivity) hpow_le
      _ ≤ n * roundoff := mul_le_mul_of_nonneg_left hη' (Nat.cast_nonneg n)
  have hbernoulli := one_sub_mul_le_pow (2 * n + 1)
  push_cast at hbernoulli
  linarith

/-- The sum of the shares is nearly 1 when the sum of the weights is finite. -/
theorem atLeast_sumOfShares {t : ℚ} (hps : ∀ p ∈ ps, Nonneg p.weight)
    (htotal : IsValue (totalWeight ps) t) (ht : 0 < t) :
    AtLeast (sumOfShares (totalWeight ps) (zero false) ps)
      (1 - (3 * ps.length + 1) / 2 ^ 53) := by
  have hzero : IsValue (zero false) 0 :=
    isValue_iff.2 ⟨0, -1074, by decide +kernel, le_rfl, by simp⟩
  obtain ⟨-, hweights, hle⟩ := hzero.toNonneg.of_foldl hps htotal
  rw [← hzero.eq_value, zero_add] at hle
  have hshares := AtLeast.foldl (.inr ⟨0, hzero, le_rfl⟩) le_rfl
    (fun p hp => (hweights p hp).atLeast_div htotal ht) (fun p hp => le_max_left _ _)
  refine hshares.mono ?_
  have hη : (2 ^ (-1075 : ℤ) : ℚ) ≤ roundoff := by
    rw [roundoff, one_div, ← zpow_natCast, ← zpow_neg]
    exact zpow_le_zpow_right₀ one_le_two (by norm_num)
  have hparts : (ps.map fun p => value p.weight / t * (1 - roundoff)).sum
      = (ps.map fun p => value p.weight).sum / t * (1 - roundoff) := by
    simp only [div_eq_mul_inv, List.sum_map_mul_right]
  have hsum := le_sum_max (fun p => value p.weight / t * (1 - roundoff)) (2 ^ (-1075 : ℤ)) ps
  rw [hparts] at hsum
  calc 1 - (3 * ps.length + 1) / 2 ^ 53 = 1 - (3 * ps.length + 1) * roundoff := by
        rw [roundoff, mul_one_div]
    _ ≤ _ := le_rounded_shares ht hle (by positivity) hη
    _ ≤ _ := mul_le_mul_of_nonneg_right (by linarith) (pow_nonneg (by norm_num [roundoff]) _)

/-! ## Selections -/

/-- A profile that is picked as the last one, because the sum of the shares stays below the number:
    the sum of the weights is an infinity, or the number is nearer to 1 than roundings can take the
    sum of the shares off. -/
structure IsLeftover (c : ProfileConfig) (r : Reading) (p : Profile) : Prop where
  last : c.profiles.getLast? = some p
  unreached : atMost r (reading
    (sumOfShares (totalWeight c.profiles) (zero false) c.profiles)) = false
  cause : reading (totalWeight c.profiles) = .infinite false ∨
    ¬r.IsAtMost (1 - (3 * c.profiles.length + 1) / 2 ^ 53)

/-- A distributor that draws from the profiles of a configuration. -/
structure Serves (c : ProfileConfig) (d : Distributor F) : Prop where
  total : isPositive (totalWeight c.profiles) = true
  shares : d.shares = sharesFrom (totalWeight c.profiles) (zero false) c.profiles

variable {c : ProfileConfig} {d d' : Distributor F} {fresh : Fresh}

theorem serves_ofConfig {seed : Option Int} {entropy : Int} {fakes : F.State}
    (h : ofConfig c seed entropy fakes = .ok d) : Serves c d := by
  simp only [ofConfig] at h
  split at h
  · cases h
  · next htotal =>
    obtain ⟨_, -, h⟩ := bind_eq_ok.1 h
    cases h
    exact ⟨by simpa using htotal, rfl⟩

theorem shares_drawFrom (d : Distributor F) (fresh : Fresh) (p : Profile) :
    (d.drawFrom fresh p).2.shares = d.shares := by
  unfold drawFrom
  split
  · rfl
  · dsimp only
    split <;> rfl

theorem shares_draw (d : Distributor F) (fresh : Fresh) : (d.draw fresh).2.shares = d.shares := by
  unfold draw
  dsimp only
  split
  · rfl
  · exact shares_drawFrom _ _ _

theorem shares_serve (d : Distributor F) (q : Request) : (d.serve q).2.shares = d.shares := by
  cases q with
  | draw fresh => exact shares_draw d fresh
  | select r => rfl
  | stats => rfl
  | load disk folder =>
    have hload : loadProfiles disk folder d (d.shares.map Share.profile) = (_, _) := rfl
    change (loadProfiles disk folder d (d.shares.map Share.profile)).2.shares = d.shares
    rw [(loadProfiles_reloaded hload).frame]
  | reset => rfl

theorem Serves.serveAll (hd : Serves c d) {h h' : History} {qs : List Request}
    (hserve : serveAll h d qs = (h', d')) : Serves c d' := by
  induction qs generalizing h d with
  | nil =>
    cases hserve
    exact hd
  | cons q rest ih => exact ih ⟨hd.total, (shares_serve d q).trans hd.shares⟩ hserve

theorem Serves.select (hd : Serves c d) (hc : ∀ p ∈ c.profiles, Nonneg p.weight) (r : Reading) :
    ∃ p ∈ c.profiles, d.select r = some p ∧ (isPositive p.weight = true ∨ IsLeftover c r p) := by
  simp only [Distributor.select, hd.shares]
  cases hfind : (sharesFrom (totalWeight c.profiles) (zero false) c.profiles).find? fun s =>
      atMost r (reading s.cumulative) && isPositive s.profile.weight with
  | some s =>
    have hmem : s.profile ∈ (sharesFrom (totalWeight c.profiles) (zero false) c.profiles).map
        Share.profile := List.mem_map_of_mem (List.mem_of_find?_eq_some hfind)
    have hs := List.find?_some hfind
    rw [profiles_sharesFrom] at hmem
    rw [Bool.and_eq_true] at hs
    exact ⟨s.profile, hmem, rfl, .inl hs.2⟩
  | none =>
    obtain ⟨q, hq, hweight⟩ := exists_isPositive hc hd.total
    obtain ⟨s, hlast, -, hprofile⟩ := getLast?_sharesFrom (totalWeight c.profiles) (zero false)
      (List.ne_nil_of_mem hq)
    -- Where the sum of the shares is reached, some profile with a weight reaches it first.
    have hunreached : atMost r (reading
        (sumOfShares (totalWeight c.profiles) (zero false) c.profiles)) = false := by
      by_contra hreached
      obtain ⟨s, hs, hsr, hsw⟩ := exists_reached hd.total hc ⟨q, hq, hweight⟩
        (Bool.not_eq_false _ ▸ hreached)
      have hfound := List.find?_eq_none.1 hfind s hs
      simp [hsr, hsw] at hfound
    refine ⟨s.profile, List.mem_of_getLast? hprofile, by simp [hlast],
      .inr ⟨hprofile, hunreached, ?_⟩⟩
    rcases isPositive_iff.1 hd.total with hinfinite | ⟨t, ht, hpos⟩
    · exact .inl (isInfinite_iff.1 hinfinite)
    · refine .inr fun hr => ?_
      rw [atMost_of_atLeast hr (atLeast_sumOfShares hc ht hpos)] at hunreached
      exact Bool.noConfusion hunreached

/-- Every user is of a profile with a weight, but for the leftover ones. -/
theorem Serves.draw (hd : Serves c d) (hc : ∀ p ∈ c.profiles, Nonneg p.weight) {u : UserContext}
    (hdraw : d.draw fresh = (.ok u, d')) :
    ∃ p ∈ c.profiles, u.profile = p.name ∧
      (isPositive p.weight = true ∨ IsLeftover c (reading d.random.unit.1) p) := by
  obtain ⟨p, hp, hselect, hweight⟩ := hd.select hc (reading d.random.unit.1)
  refine ⟨p, hp, ?_, hweight⟩
  have hpick : ({ d with random := d.random.unit.2 } : Distributor F).select
      (reading d.random.unit.1) = some p := hselect
  simp only [Distributor.draw, hpick] at hdraw
  obtain ⟨rows, es, s, -, -, rfl, -⟩ := drawFrom_ok hdraw
  rfl

/-- Whatever was requested before, and whatever library gives the fake data, a selection picks a
    profile with a weight and so does a draw, but for leftover ones. -/
theorem select_weighted {v : Value} {seed : Option Int} {entropy : Int} {fakes : F.State}
    {made : Distributor F} {rs : List Request} {h : History}
    (hread : ProfileConfig.read v = .accepted c)
    (hmade : ofConfig c seed entropy fakes = .ok made) (hserve : serveAll .start made rs = (h, d)) :
    (∀ r, ∃ p ∈ c.profiles, d.select r = some p ∧
      (isPositive p.weight = true ∨ IsLeftover c r p)) ∧
    ∀ fresh u d', d.draw fresh = (.ok u, d') → ∃ p ∈ c.profiles, u.profile = p.name ∧
      (isPositive p.weight = true ∨ IsLeftover c (reading d.random.unit.1) p) := by
  have hd := (serves_ofConfig hmade).serveAll hserve
  have hc : ∀ p ∈ c.profiles, Nonneg p.weight := fun p hp => by
    obtain ⟨doc, hdoc⟩ := ProfileConfig.exists_read_of_mem hread hp
    exact nonneg_iff.1 (Profile.reaches_weight_of_read hdoc)
  exact ⟨hd.select hc, fun _ _ _ hdraw => hd.draw hc hdraw⟩

/-! ## Two profiles with a weight and one without -/

def bare (name : String) (weight : Float) : Profile :=
  ⟨name, weight, none, none, [], []⟩

def withIdle (a b : Float) : ProfileConfig :=
  ⟨none, none, [bare "first" a, bare "second" b, bare "never" (zero false)]⟩

open Schema Verdict in
theorem read_bare {name : String} {w : Float}
    (hname : nonEmptyText (.text name) = .accepted name) (hw : reaches false 0 w = true) :
    Profile.read (bare name w).toValue = .accepted (bare name w) := by
  have hnumber : numberAtLeast 0 (.float w) = .accepted w := by
    simp [numberAtLeast, number, andThen, hw]
  simp only [Profile.read, record_eq_accepted, seq_eq_accepted, map_eq_accepted]
  exact ⟨_, rfl, _, _, ⟨_, _, ⟨_, _, ⟨_, _, ⟨_, _,
    ⟨_, required_eq_accepted.2 ⟨_, _, rfl, hname⟩, rfl⟩,
    required_eq_accepted.2 ⟨_, _, rfl, hnumber⟩, rfl⟩, rfl, rfl⟩, rfl, rfl⟩, rfl, rfl⟩, rfl, rfl⟩

open Schema Verdict in
theorem read_withIdle {a b : Float} (ha : reaches false 0 a = true)
    (hb : reaches false 0 b = true) :
    ProfileConfig.read (withIdle a b).toValue = .accepted (withIdle a b) := by
  have hzero : reaches false 0 (zero false) = true := by decide +kernel
  have hlist : nonEmptyList Profile.read (.ofList Profile.toValue (withIdle a b).profiles)
      = .accepted (withIdle a b).profiles :=
    andThen_eq_accepted.2 ⟨_, each_eq_accepted.2 <|
      .cons (read_bare rfl ha) (.cons (read_bare rfl hb) (.cons (read_bare rfl hzero) .nil)), rfl⟩
  simp only [ProfileConfig.read, record_eq_accepted, seq_eq_accepted, map_eq_accepted]
  exact ⟨_, rfl, _, _, ⟨_, _, ⟨_, rfl, rfl⟩, rfl, rfl⟩, required_eq_accepted.2
    ⟨_, _, rfl, andThen_eq_accepted.2 ⟨_, hlist, rfl⟩⟩, rfl⟩

theorem ofConfig_withIdle {a b : Float}
    (h : isPositive (totalWeight (withIdle a b).profiles) = true) :
    ∃ made : Distributor .small, ofConfig (withIdle a b) (some 1) 0 someFakes = .ok made := by
  simp only [ofConfig, h]
  exact ⟨_, rfl⟩

/-- With weights 3 and 1 the middle is reached by a share. -/
theorem select_weighted_withIdle :
    let c := withIdle (ofScaled false 3 0) (ofScaled false 1 0)
    ProfileConfig.read c.toValue = .accepted c ∧
      ∃ made h d, ofConfig c (some 1) 0 someFakes = .ok made ∧ serveAll .start made visits = (h, d) ∧
        ∃ p ∈ c.profiles, d.select (.finite 1 (-1)) = some p ∧ isPositive p.weight = true := by
  have hread := read_withIdle (a := ofScaled false 3 0) (b := ofScaled false 1 0)
    (by decide +kernel) (by decide +kernel)
  obtain ⟨made, hmade⟩ := ofConfig_withIdle (a := ofScaled false 3 0) (b := ofScaled false 1 0)
    (by decide +kernel)
  obtain ⟨h, d, hserve⟩ : ∃ h d, serveAll .start made visits = (h, d) := ⟨_, _, rfl⟩
  obtain ⟨p, hp, hselect, hweight⟩ := (select_weighted hread hmade hserve).1 (.finite 1 (-1))
  refine ⟨hread, made, h, d, hmade, hserve, p, hp, hselect, hweight.resolve_right fun hleft => ?_⟩
  have hunreached := hleft.unreached
  revert hunreached
  decide +kernel

/-- The double nearest to 1e308. -/
def huge : Float := Float.ofBits 0x7FE1CCF385EBC8A0

/-- Twice 1e308 is an infinity, of which 1e308 is no share. -/
theorem select_withIdle_huge :
    let c := withIdle huge huge
    ProfileConfig.read c.toValue = .accepted c ∧
      ∃ made, ofConfig c (some 1) 0 someFakes = .ok made ∧
        made.select (.finite 1 (-1)) = some (bare "never" (zero false)) ∧
        isPositive (zero false) = false := by
  have hread := read_withIdle (a := huge) (b := huge) (by decide +kernel) (by decide +kernel)
  obtain ⟨made, hmade⟩ := ofConfig_withIdle (a := huge) (b := huge) (by decide +kernel)
  refine ⟨hread, made, hmade, ?_, by decide +kernel⟩
  have hnone : ((sharesFrom (totalWeight (withIdle huge huge).profiles) (zero false)
      (withIdle huge huge).profiles).find? fun s =>
        atMost (.finite 1 (-1)) (reading s.cumulative) && isPositive s.profile.weight).isNone := by
    decide +kernel
  rw [select, (serves_ofConfig hmade).shares, Option.isNone_iff_eq_none.1 hnone]
  rfl

end Distributor

end ApiJourney
