-- SUMMARY: Random values of accepted options, and think times of accepted ranges, are within them.
import ApiJourney.Proofs.Flow.Run
import ApiJourney.Proofs.Flow.ThinkTime
import ApiJourney.Proofs.Profile.Selection
import ApiJourney.Proofs.Schema.Acceptance

/-!
# Random values

A number below a bound is the first draw of as many bits as the bound has that is below it, so a
number between two bounds in order is between them whatever is drawn, and a character of a text
that is not empty is one of its characters. Options are accepted when there is a number between
their bounds or a character in their character set, which is what a draw needs.

Think times are drawn like numbers and then rounded to doubles. The bounds are doubles themselves,
so rounding leaves a think time between them.
-/

namespace ApiJourney

/-! ## Sampling -/

namespace Twister

/-- The first draw of `k` bits that is below `n`, and how many draws before it are not. -/
inductive Samples (n k : ℕ) : ℕ → Twister → ℕ → Twister → Prop
  | accept {t t' : Twister} {r : ℕ} (draw : t.bits k = (r, t')) (below : r < n) :
      Samples n k 0 t r t'
  | refuse {t mid t' : Twister} {r first refused : ℕ} (draw : t.bits k = (first, mid))
      (beyond : n ≤ first) (rest : Samples n k refused mid r t') :
      Samples n k (refused + 1) t r t'

/-- Draws end with the first one that is accepted. -/
theorem rejecting_of_samples {n k refused fuel r : ℕ} {t t' : Twister}
    (h : Samples n k refused t r t') (hfuel : refused < fuel) :
    rejecting n k fuel t = (r, t') := by
  induction h generalizing fuel with
  | accept draw below =>
    obtain ⟨fuel, rfl⟩ := Nat.exists_eq_succ_of_ne_zero (Nat.ne_of_gt hfuel)
    simp [rejecting, draw, below]
  | refuse draw beyond rest ih =>
    obtain ⟨fuel, rfl⟩ := Nat.exists_eq_succ_of_ne_zero (Nat.ne_of_gt (Nat.zero_lt_of_lt hfuel))
    rw [rejecting, draw]
    simp only [Nat.not_lt.2 beyond, if_false]
    exact ih (Nat.lt_of_succ_lt_succ hfuel)

/-- What is drawn below a bound is the first draw that is. -/
theorem below_of_samples {n refused r : ℕ} {t t' : Twister} (hn : n ≠ 0)
    (h : Samples n (n.log2 + 1) refused t r t') (hfew : refused < maxRejections) :
    t.below n = (r, t') := by
  rw [below, if_neg hn]
  exact rejecting_of_samples h hfew

theorem below_lt {n : ℕ} (h : 0 < n) (t : Twister) : (t.below n).1 < n := by
  rcases rejecting_lt n (if n = 0 then 0 else n.log2 + 1) maxRejections t with hlt | hzero
  · exact hlt
  · rw [below, hzero]
    exact h

theorem between_within {low high : ℤ} (h : low ≤ high) (t : Twister) :
    low ≤ (t.between low high).1 ∧ (t.between low high).1 ≤ high := by
  rcases between_mem low high t with heq | hwithin
  · rw [heq]
    exact ⟨le_rfl, h⟩
  · exact hwithin

theorem choose_mem {cs : Array Char} (h : 0 < cs.size) (t : Twister) : (t.choose cs).1 ∈ cs := by
  have hlt := below_lt h t
  unfold choose
  simp only [Array.getD, hlt, dif_pos]
  exact Array.getElem_mem hlt

end Twister

/-! ## Options -/

namespace RandomOptions

open Schema

/-- What options say about a value: a text of their length over their character set, or a number
    between their bounds when there is no character set. -/
inductive Allows (o : RandomOptions) : Value → Prop
  | text {cs s : String} (charset : o.charset = some cs)
      (length : (s.toList.length : ℤ) = o.length.getD defaultLength)
      (chars : ∀ c ∈ s.toList, c ∈ cs.toList) : Allows o (.text s)
  | number {n : ℤ} (charset : o.charset = Option.none) (low : o.low ≤ n) (high : n ≤ o.high) :
      Allows o (.int n)

/-- What accepted options keep to. -/
structure Sound (o : RandomOptions) : Prop where
  charset : ∀ cs, o.charset = some cs → cs.isEmpty = false
  length : ∀ n, o.length = some n → 1 ≤ n
  ordered : o.charset = Option.none → o.low ≤ o.high

theorem sound_of_read {v : Value} {o : RandomOptions} (h : read v = .accepted o) : o.Sound := by
  obtain ⟨o', hrecord, hrange⟩ := Verdict.andThen_eq_accepted.1 h
  obtain ⟨es, -, hfields⟩ := record_eq_accepted.1 hrecord
  obtain ⟨_, charset, hthree, hcharset, rfl⟩ := Verdict.seq_eq_accepted.1 hfields
  obtain ⟨_, length, htwo, hlength, rfl⟩ := Verdict.seq_eq_accepted.1 hthree
  obtain ⟨_, max, hone, -, rfl⟩ := Verdict.seq_eq_accepted.1 htwo
  obtain ⟨min, -, rfl⟩ := Verdict.map_eq_accepted.1 hone
  unfold checkRange at hrange
  split_ifs at hrange with hempty
  · exact absurd hrange Verdict.refuse_ne_accepted
  cases hrange
  refine ⟨fun cs hcs => ?_, fun n hn => ?_, fun hnone => ?_⟩
  · subst hcs
    obtain ⟨v, hv⟩ := exists_of_optional hcharset
    obtain ⟨s, -, hs⟩ := Verdict.andThen_eq_accepted.1 hv
    split_ifs at hs with hshort
    · exact absurd hs Verdict.refuse_ne_accepted
    · cases hs
      exact Bool.not_eq_true _ ▸ hshort
  · subst hn
    obtain ⟨v, hv⟩ := exists_of_optional hlength
    obtain ⟨m, -, hm⟩ := Verdict.andThen_eq_accepted.1 hv
    split_ifs at hm with hpos
    · cases hm
      exact hpos
    · exact absurd hm Verdict.refuse_ne_accepted
  · simp only [Bool.and_eq_true, decide_eq_true_eq, not_and, Int.not_lt] at hempty
    exact hempty (Option.isNone_iff_eq_none.2 hnone)

theorem Sound.drawnLength {o : RandomOptions} (h : o.Sound) :
    (o.drawnLength : ℤ) = o.length.getD defaultLength := by
  unfold RandomOptions.drawnLength
  cases hlength : o.length with
  | none => rfl
  | some n =>
    have hpos := h.length n hlength
    have hne : (n != 0) = true := by simp; omega
    simp [Option.filter, hne]
    omega

end RandomOptions

namespace Distributor

/-- The characters of a text are drawn one after the other. -/
theorem drawText_succ (cs : Array Char) (n : ℕ) (t : Twister) :
    drawText cs (n + 1) t = ((t.choose cs).1 :: (drawText cs n (t.choose cs).2).1,
      (drawText cs n (t.choose cs).2).2) := by
  rw [drawText]

theorem length_drawText (cs : Array Char) (n : ℕ) (t : Twister) :
    (drawText cs n t).1.length = n := by
  induction n generalizing t with
  | zero => rfl
  | succ n ih => rw [drawText_succ, List.length_cons, ih]

theorem mem_drawText {cs : Array Char} (h : 0 < cs.size) {n : ℕ} {t : Twister} {c : Char}
    (hc : c ∈ (drawText cs n t).1) : c ∈ cs := by
  induction n generalizing t with
  | zero => cases hc
  | succ n ih =>
    rw [drawText_succ, List.mem_cons] at hc
    rcases hc with rfl | hc
    · exact Twister.choose_mem h t
    · exact ih hc

/-- Options that are accepted are drawn from without a fault, and what is drawn is what they
    allow. -/
theorem drawRandom_allows {o : RandomOptions} (h : o.Sound) (t : Twister) :
    ∃ v t', drawRandom o t = .ok (v, t') ∧ o.Allows v := by
  unfold drawRandom Text.given?
  cases hcharset : o.charset with
  | none =>
    have hordered := h.ordered hcharset
    obtain ⟨hlow, hhigh⟩ := Twister.between_within hordered t
    simp only [Option.filter_none, if_neg (Int.not_lt.2 hordered)]
    exact ⟨_, _, rfl, .number hcharset hlow hhigh⟩
  | some cs =>
    have hcontent : cs.isEmpty = false := h.charset cs hcharset
    have hsize : 0 < cs.toList.toArray.size := by
      rw [List.size_toArray, List.length_pos_iff, ne_eq, String.toList_eq_nil_iff,
        ← String.isEmpty_iff, hcontent]
      exact Bool.false_ne_true
    simp only [Option.filter_some, hcontent, Bool.not_false, if_true]
    refine ⟨_, _, rfl, .text hcharset ?_ fun c hc => ?_⟩
    · rw [String.toList_ofList, length_drawText, h.drawnLength]
    · rw [String.toList_ofList] at hc
      simpa using mem_drawText hsize hc

end Distributor

/-! ## Generators that may fail -/

namespace Generator

open Schema Verdict

theorem sound_of_read {v : Value} {o : RandomOptions}
    (h : Generator.read v = .accepted (.random o)) : o.Sound := by
  have hdefault : RandomOptions.none.Sound := RandomOptions.sound_of_read (v := .dict []) rfl
  unfold Generator.read tagged at h
  split at h
  · split at h
    · exact absurd h refuse_ne_accepted
    · split at h
      · next t reader hfound =>
        have hread := under_eq_accepted.1 h
        obtain ⟨name, -, hlookup⟩ := Option.bind_eq_some_iff.1 hfound
        obtain ⟨_, hreader, ⟨⟩⟩ := Option.map_eq_some_iff.1 hlookup
        have hmem := mem_of_lookup hreader
        simp only [readers, List.mem_cons, Prod.mk.injEq, List.not_mem_nil, or_false] at hmem
        rcases hmem with ⟨-, rfl⟩ | ⟨-, rfl⟩ | ⟨-, rfl⟩ | ⟨-, rfl⟩ | ⟨-, rfl⟩
        all_goals obtain ⟨options, hoptions, heq⟩ := map_eq_accepted.1 hread
        -- Only one of the readers gives a generator of random values.
        all_goals cases heq
        obtain ⟨es, -, hoptions⟩ := record_eq_accepted.1 hoptions
        rcases withDefault_eq_accepted.1 hoptions with ⟨-, doc, -, hdoc⟩ | ⟨-, rfl⟩
        · exact RandomOptions.sound_of_read hdoc
        · exact hdefault
      · exact absurd h refuse_ne_accepted
  · exact absurd h refuse_ne_accepted

/-- A sequence, or a call of a data provider. -/
def MayFail : Generator → Prop
  | .sequence _ => True
  | .faker _ => True
  | _ => False

/-- An accepted generator fails only where it counts or calls. -/
theorem mayFail_of_generate {v : Value} {g : Generator} (h : Generator.read v = .accepted g)
    {F : Faker} {d : Distributor F} {fresh : Fresh} {key : GeneratorKey}
    {source : Distributor.Source F} {f : Fault}
    (hfails : (d.generate fresh key g source).1 = .error f) : g.MayFail := by
  cases g with
  | sequence _ | faker _ => trivial
  | uuid _ | timestamp _ => cases hfails
  | random o =>
    obtain ⟨w, t, hdrawn, -⟩ := Distributor.drawRandom_allows (sound_of_read h) source.random
    simp [Distributor.generate, hdrawn] at hfails

end Generator

/-! ## Think times -/

namespace Binary64

/-- What is cut off a whole double is nothing. -/
theorem truncate_of_isWhole {x : Float} {m e : ℤ} (hwhole : isWhole x = true)
    (h : reading x = .finite m e) : (truncate m e : ℚ) = value x := by
  have hvalue : value x = m * 2 ^ e := by rw [value, h]
  rw [hvalue]
  rw [isWhole, h] at hwhole
  simp only [Bool.or_eq_true, decide_eq_true_eq, beq_iff_eq, Nat.pow_eq] at hwhole
  unfold truncate
  split_ifs with he
  · obtain ⟨k, rfl⟩ := Int.eq_ofNat_of_zero_le he
    rw [Nat.pow_eq, Int.toNat_natCast]
    push_cast
    rw [zpow_natCast]
  · obtain ⟨k, hk⟩ := Int.eq_ofNat_of_zero_le (Int.neg_nonneg_of_nonpos (Int.not_le.1 he).le)
    obtain rfl : e = -k := by omega
    have hunits : (-(-(k : ℤ))).toNat = k := by omega
    rw [hunits] at hwhole ⊢
    obtain ⟨c, rfl⟩ := Int.dvd_of_emod_eq_zero (hwhole.resolve_left he)
    rw [Nat.pow_eq, Int.mul_tdiv_cancel_left c (by positivity), zpow_neg, zpow_natCast]
    push_cast
    field_simp

/-- A whole double that is not below zero is a natural number, and fits. -/
theorem exists_whole {x : Float} (hwhole : isWhole x = true) (hx : Nonneg x) :
    ∃ (a : ℕ) (m e : ℤ), reading x = .finite m e ∧ truncate m e = a ∧ value x = a ∧ Fits a ∧
      InRange a := by
  obtain ⟨m, e, hreading⟩ := reading_of_isWhole hwhole
  have hvalue := truncate_of_isWhole hwhole hreading
  have hnonneg : (0 : ℚ) ≤ value x := by
    rcases hx with hx | hx
    · rw [isInfinite_iff, hreading] at hx
      cases hx
    · exact hx.nonneg
  obtain ⟨a, ha⟩ := Int.eq_ofNat_of_zero_le (show 0 ≤ truncate m e by
    rw [← hvalue] at hnonneg
    exact_mod_cast hnonneg)
  have hfits := fits_truncate hreading
  have hin := inRange_truncate hreading
  rw [ha, Int.natAbs_natCast] at hfits hin
  exact ⟨a, m, e, hreading, ha, by rw [← hvalue, ha, Int.cast_natCast], hfits, hin⟩

end Binary64

namespace ThinkRange

open Schema Binary64

theorem nonneg_of_required {es : Entries} {names : List String} {x : Float}
    (h : required es names (numberAtLeast 0) = .accepted x) : Nonneg x := by
  obtain ⟨_, v, -, hv⟩ := required_eq_accepted.1 h
  obtain ⟨y, -, hy⟩ := Verdict.andThen_eq_accepted.1 hv
  split_ifs at hy with hreaches
  · cases hy
    exact Distributor.nonneg_iff.1 hreaches
  · exact absurd hy Verdict.refuse_ne_accepted

/-- The bounds of an accepted range are not below zero, and in order. -/
theorem ordered_of_read {v : Value} {b : ThinkRange} (h : read v = .accepted b) :
    Nonneg b.min ∧ Nonneg b.max ∧ b.isOrdered = true := by
  obtain ⟨_, hrecord, hbounds⟩ := Verdict.andThen_eq_accepted.1 h
  obtain ⟨es, -, hfields⟩ := record_eq_accepted.1 hrecord
  obtain ⟨_, max, hone, hmax, rfl⟩ := Verdict.seq_eq_accepted.1 hfields
  obtain ⟨min, hmin, rfl⟩ := Verdict.map_eq_accepted.1 hone
  unfold checkBounds at hbounds
  split_ifs at hbounds with hordered
  · cases hbounds
    exact ⟨nonneg_of_required hmin, nonneg_of_required hmax, hordered⟩
  · exact absurd hbounds Verdict.refuse_ne_accepted

theorem value_le {b : ThinkRange} {m e n f : ℤ} (h : b.isOrdered = true)
    (hmin : reading b.min = .finite m e) (hmax : reading b.max = .finite n f) :
    value b.min ≤ value b.max := by
  rw [value, value, hmin, hmax]
  by_contra hlt
  rw [isOrdered, hmin, hmax, Reading.order_finite, compare_gt_iff_gt.2 (not_le.1 hlt)] at h
  cases h

end ThinkRange

namespace Journey

open Binary64

/-- From an accepted range of whole seconds a whole number of seconds within it is drawn. -/
theorem drawThink_within {v : Value} {b : ThinkRange} (h : ThinkRange.read v = .accepted b)
    (hmin : isWhole b.min = true) (hmax : isWhole b.max = true) (t : Twister) :
    ∃ x t', drawThink b t = .ok (x, t') ∧
      ∃ k : ℕ, IsValue x k ∧ value b.min ≤ k ∧ k ≤ value b.max := by
  obtain ⟨hlow, hhigh, hordered⟩ := ThinkRange.ordered_of_read h
  obtain ⟨low, m, e, hreadMin, htruncMin, hvalueMin, hfitsMin, -⟩ := exists_whole hmin hlow
  obtain ⟨high, n, f, hreadMax, htruncMax, hvalueMax, hfitsMax, hin⟩ := exists_whole hmax hhigh
  have hle : (low : ℤ) ≤ high := by
    have hvalues := ThinkRange.value_le hordered hreadMin hreadMax
    rw [hvalueMin, hvalueMax] at hvalues
    exact_mod_cast hvalues
  obtain ⟨hge, hle'⟩ := Twister.between_within hle t
  cases hdraw : t.between low high with
  | mk drawn t' =>
    rw [hdraw] at hge hle'
    obtain ⟨k, rfl⟩ := Int.eq_ofNat_of_zero_le ((Int.natCast_nonneg low).trans hge)
    obtain ⟨x, r, hx, hvalue, hlowr, hrhigh⟩ := exists_ofInt?_between hfitsMin hfitsMax hin
      (Int.ofNat_le.1 hge) (Int.ofNat_le.1 hle')
    refine ⟨x, t', ?_, r, hvalue, ?_, ?_⟩
    · unfold drawThink
      simp only [hmin, hmax, Bool.and_self, if_true, hreadMin, hreadMax, htruncMin, htruncMax,
        hdraw, hx]
    · rw [hvalueMin]
      exact_mod_cast hlowr
    · rw [hvalueMax]
      exact_mod_cast hrhigh

end Journey

/-! ## Accepted options and ranges -/

open Binary64

/-- A random value of accepted options is there whatever random numbers come, and it is what the
    options allow; a think time of an accepted range of whole seconds is a whole number of seconds
    within it. -/
theorem random_values_within :
    (∀ (v : Value) (o : RandomOptions) (t : Twister), RandomOptions.read v = .accepted o →
      ∃ w t', Distributor.drawRandom o t = .ok (w, t') ∧ o.Allows w) ∧
    ∀ (v : Value) (b : ThinkRange) (j : Journey) (s : Step) (t : Twister),
      ThinkRange.read v = .accepted b → isWhole b.min = true → isWhole b.max = true →
      s.thinkTime.or j.defaults.thinkTime = some (.range b) →
      ∃ x t', j.thinkTime s t = .ok (x, t') ∧
        ∃ k : ℕ, IsValue x k ∧ value b.min ≤ k ∧ k ≤ value b.max := by
  constructor
  · intro v o t h
    exact Distributor.drawRandom_allows (RandomOptions.sound_of_read h) t
  · intro v b j s t h hmin hmax hrange
    rw [Journey.thinkTime, hrange]
    exact Journey.drawThink_within h hmin hmax t

/-- A range of one to three seconds. -/
def pause : ThinkRange :=
  ⟨ofScaled false 1 0, ofScaled false 3 0⟩

/-- Numbers of two words, texts over two characters, and one to three seconds. -/
theorem random_values_within_drawn :
    (RandomOptions.read (.object [("min", .int (-3)), ("max", .int 5000000000)])
        = .accepted ⟨some (-3), some 5000000000, none, none⟩ ∧
      ∃ w t', Distributor.drawRandom ⟨some (-3), some 5000000000, none, none⟩ (.ofSeed 7)
          = .ok (w, t') ∧
        RandomOptions.Allows ⟨some (-3), some 5000000000, none, none⟩ w) ∧
    (RandomOptions.read (.object [("min", .int 9), ("max", .int 1), ("charset", .text "xy")])
        = .accepted ⟨some 9, some 1, none, some "xy"⟩ ∧
      ∃ w t', Distributor.drawRandom ⟨some 9, some 1, none, some "xy"⟩ (.ofSeed 7) = .ok (w, t') ∧
        RandomOptions.Allows ⟨some 9, some 1, none, some "xy"⟩ w) ∧
    ThinkRange.read (.object [("min", .int 1), ("max", .int 3)]) = .accepted pause ∧
      isWhole pause.min = true ∧ isWhole pause.max = true ∧
      ∃ x t', (Journey.plainJourney []).thinkTime
          { Journey.plainStep "create" none with thinkTime := some (.range pause) } (.ofSeed 7)
          = .ok (x, t') ∧
        ∃ k : ℕ, IsValue x k ∧ value pause.min ≤ k ∧ k ≤ value pause.max := by
  have hbounds : RandomOptions.read (.object [("min", .int (-3)), ("max", .int 5000000000)])
      = .accepted ⟨some (-3), some 5000000000, none, none⟩ := by rfl
  have hcharset : RandomOptions.read
      (.object [("min", .int 9), ("max", .int 1), ("charset", .text "xy")])
      = .accepted ⟨some 9, some 1, none, some "xy"⟩ := by rfl
  have hrange : ThinkRange.read (.object [("min", .int 1), ("max", .int 3)]) = .accepted pause := by
    rfl
  have hmin : isWhole pause.min = true := by decide
  have hmax : isWhole pause.max = true := by decide
  exact ⟨⟨hbounds, random_values_within.1 _ _ _ hbounds⟩,
    ⟨hcharset, random_values_within.1 _ _ _ hcharset⟩, hrange, hmin, hmax,
    random_values_within.2 _ _ _ _ _ hrange hmin hmax rfl⟩

end ApiJourney
