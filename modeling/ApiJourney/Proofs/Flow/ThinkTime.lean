-- SUMMARY: A think time can be drawn whatever random numbers come.
import ApiJourney.Flow.Process
import ApiJourney.Proofs.Number.Range

/-!
# Think times

A draw from a range of whole seconds stays between the bounds, which are doubles themselves, so a
double stands for it. A think time is therefore found whatever the random numbers are.
-/

namespace ApiJourney

/-! ## Draws -/

namespace Twister

/-- What is drawn is below the bound, or zero when too much was refused. -/
theorem rejecting_lt (n k fuel : Nat) (t : Twister) :
    (rejecting n k fuel t).1 < n ∨ (rejecting n k fuel t).1 = 0 := by
  induction fuel generalizing t with
  | zero => exact .inr rfl
  | succ fuel ih =>
    rw [rejecting]
    dsimp only
    split_ifs with hlt
    · exact .inl hlt
    · exact ih _

/-- An integer is drawn between its bounds; it is the lower one where there is none between. -/
theorem between_mem (low high : Int) (t : Twister) :
    (t.between low high).1 = low ∨
      low ≤ (t.between low high).1 ∧ (t.between low high).1 ≤ high := by
  have hbelow : (t.below (high - low + 1).toNat).1 < (high - low + 1).toNat ∨
      (t.below (high - low + 1).toNat).1 = 0 := rejecting_lt _ _ _ _
  unfold between
  dsimp only
  rcases hbelow with hlt | hzero
  · exact .inr ⟨by omega, by omega⟩
  · left
    rw [hzero]
    exact Int.add_zero low

end Twister

/-! ## Ranges -/

namespace Binary64

theorem reading_of_isWhole {x : Float} (h : isWhole x = true) :
    ∃ m e, reading x = .finite m e := by
  unfold isWhole at h
  split at h
  · exact ⟨_, _, by assumption⟩
  · cases h

/-- An integer drawn between two doubles has a nearest double. -/
theorem isSome_ofInt?_between {x y : Float} {m e n f : Int} (hx : reading x = .finite m e)
    (hy : reading y = .finite n f) (t : Twister) :
    (ofInt? (t.between (truncate m e) (truncate n f)).1).isSome := by
  have hlow := inRange_truncate hx
  have hhigh := inRange_truncate hy
  apply ofInt?_isSome
  rcases Twister.between_mem (truncate m e) (truncate n f) t with heq | ⟨hge, hle⟩
  · rw [heq]
    exact hlow
  · rcases Nat.le_total (truncate m e).natAbs (truncate n f).natAbs with horder | horder
    · exact hhigh.mono (by omega)
    · exact hlow.mono (by omega)

end Binary64

namespace Journey

theorem exists_drawThink (b : ThinkRange) (t : Twister) : ∃ a, drawThink b t = .ok a := by
  unfold drawThink
  split_ifs with hwhole
  · rw [Bool.and_eq_true] at hwhole
    obtain ⟨m, e, hmin⟩ := Binary64.reading_of_isWhole hwhole.1
    obtain ⟨n, f, hmax⟩ := Binary64.reading_of_isWhole hwhole.2
    obtain ⟨x, hx⟩ := Option.isSome_iff_exists.1 (Binary64.isSome_ofInt?_between hmin hmax t)
    rw [hmin, hmax]
    dsimp only
    rw [hx]
    exact ⟨_, rfl⟩
  · exact ⟨_, rfl⟩

/-- A think time is drawn behind every step. -/
theorem exists_thinkTime (j : Journey) (s : Step) (t : Twister) : ∃ a, j.thinkTime s t = .ok a := by
  unfold thinkTime
  split
  · exact ⟨_, rfl⟩
  · exact ⟨_, rfl⟩
  · exact exists_drawThink _ t

end Journey

end ApiJourney
