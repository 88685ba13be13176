-- SUMMARY: What the generators of a draw, a whole draw and a reload change, and what they keep.
import ApiJourney.Proofs.Outcome
import ApiJourney.Proofs.Profile.Assignment
import ApiJourney.Proofs.Value.Keys

/-!
# Draws

A generator moves on its own sequence and no other, and so all generators of a draw move on
each of their sequences once. A draw that succeeds hands out the row under the cursor of one
profile; a draw that fails changes nothing but the random numbers and what the library of fake
data remembers. A reload changes rows only, and takes none away.
-/

namespace ApiJourney

/-! ## Text keys -/

namespace Entries

theorem get?_cons_text (name key : String) (v : Value) (es : Entries) :
    get? ((.text name, v) :: es) key = if name = key then some v else get? es key := by
  rw [get?, find?, Value.sameKey_text]
  by_cases h : name = key <;> simp [h, get?]

end Entries

namespace Distributor

variable {F : Faker} {d d' : Distributor F} {fresh : Fresh}

/-! ## Sequences -/

/-- What a sequence of integers holds after a number of draws: nothing before the first one,
    then its last member. -/
def memberAfter (start step : Int) : Nat → Option Value
  | 0 => none
  | n + 1 => some (.int (start + n * step))

theorem nextMember_memberAfter (start step : Int) (n : Nat) :
    nextMember ⟨.int start, .int step⟩ (memberAfter start step n)
      = .ok (.int (start + n * step)) := by
  cases n with
  | zero => simp [memberAfter, nextMember]
  | succ n =>
    simp only [memberAfter, nextMember, plus, Except.ok.injEq, Value.int.injEq]
    rw [Int.natCast_succ, Int.add_mul, Int.one_mul, Int.add_assoc]

/-! ## Generators -/

theorem callProvider_pending (key : GeneratorKey) (o : FakerOptions) (s : Source F) :
    (d.callProvider key o s).2.pending = s.pending := by
  unfold callProvider
  split <;> rfl

/-- A generator leaves the moved sequences alone, or it is a sequence that moves on. -/
theorem generate_pending (d : Distributor F) (fresh : Fresh) (key : GeneratorKey) (g : Generator)
    (s : Source F) :
    (d.generate fresh key g s).2.pending = s.pending ∨
      ∃ v, (d.generate fresh key g s).2.pending = assign key v s.pending := by
  cases g with
  | uuid version => exact .inl rfl
  | timestamp format => exact .inl rfl
  | random o =>
    simp only [generate]
    split <;> exact .inl rfl
  | faker o => exact .inl (callProvider_pending key o s)
  | sequence o =>
    simp only [generate]
    split
    · exact .inr ⟨_, rfl⟩
    · exact .inl rfl

theorem generate_frame (d : Distributor F) (fresh : Fresh) {key k : GeneratorKey} (hk : k ≠ key)
    (g : Generator) (s : Source F) :
    (d.generate fresh key g s).2.pending.lookup k = s.pending.lookup k := by
  rcases d.generate_pending fresh key g s with h | ⟨v, h⟩
  · rw [h]
  · rw [h, lookup_assign_ne hk]

theorem generate_sequence {key : GeneratorKey} {o : SequenceOptions} {s s' : Source F} {v : Value}
    (hfresh : s.pending.lookup key = none)
    (h : d.generate fresh key (.sequence o) s = (.ok v, s')) :
    nextMember o (d.sequences.lookup key) = .ok v ∧ s'.pending.lookup key = some v := by
  simp only [generate, hfresh, Option.none_or] at h
  cases hnext : nextMember o (d.sequences.lookup key) with
  | error f => simp [hnext] at h
  | ok w =>
    simp only [hnext, Prod.mk.injEq, Except.ok.injEq] at h
    obtain ⟨rfl, rfl⟩ := h
    exact ⟨rfl, lookup_assign_self key w s.pending⟩

/-- A generator takes its random numbers from its source, not from the distributor. -/
theorem generate_withRandom (random : Twister) (key : GeneratorKey) (g : Generator) (s : Source F) :
    { d with random }.generate fresh key g s = d.generate fresh key g s := by
  cases g <;> rfl

theorem generateAll_cons_ok {profile name : String} {g : Generator}
    {rest : List (String × Generator)} {s s' : Source F} {es : Entries}
    (h : d.generateAll fresh profile ((name, g) :: rest) s = (.ok es, s')) :
    ∃ v mid more, d.generate fresh (profile, name) g s = (.ok v, mid) ∧
      d.generateAll fresh profile rest mid = (.ok more, s') ∧ es = (.text name, v) :: more := by
  rw [generateAll] at h
  split at h
  · cases h
  · rename_i v mid hfirst
    split at h
    · cases h
    · rename_i more last hrest
      cases h
      exact ⟨v, mid, more, hfirst, hrest, rfl⟩

/-- Generators move on no sequence but those under their own names. -/
theorem generateAll_frame {profile : String} {gs : List (String × Generator)} {s s' : Source F}
    {es : Entries} (h : d.generateAll fresh profile gs s = (.ok es, s')) {k : GeneratorKey}
    (hk : k.1 = profile → k.2 ∉ gs.map Prod.fst) :
    s'.pending.lookup k = s.pending.lookup k := by
  induction gs generalizing s es with
  | nil =>
    cases h
    rfl
  | cons e rest ih =>
    obtain ⟨name, g⟩ := e
    obtain ⟨v, mid, more, hfirst, hrest, -⟩ := generateAll_cons_ok h
    have hne : k ≠ (profile, name) := by
      rintro rfl
      exact hk rfl List.mem_cons_self
    have hmid := d.generate_frame fresh hne g s
    rw [hfirst] at hmid
    rw [ih hrest fun hp hmem => hk hp (List.mem_cons_of_mem _ hmem), hmid]

theorem generateAll_nodup {profile : String} {gs : List (String × Generator)} {s s' : Source F}
    {es : Entries} (h : d.generateAll fresh profile gs s = (.ok es, s'))
    (hs : (s.pending.map Prod.fst).Nodup) : (s'.pending.map Prod.fst).Nodup := by
  induction gs generalizing s es with
  | nil =>
    cases h
    exact hs
  | cons e rest ih =>
    obtain ⟨name, g⟩ := e
    obtain ⟨v, mid, more, hfirst, hrest, -⟩ := generateAll_cons_ok h
    refine ih hrest ?_
    rcases d.generate_pending fresh (profile, name) g s with hp | ⟨w, hp⟩ <;>
      rw [hfirst] at hp
    · rw [hp]
      exact hs
    · rw [hp]
      exact nodup_keys_assign _ w hs

/-- Each sequence among generators of distinct names hands out the member behind its last one,
    and moves on to it. -/
theorem generateAll_sequence {profile name : String} {gs : List (String × Generator)}
    {o : SequenceOptions} {s s' : Source F} {es : Entries}
    (h : d.generateAll fresh profile gs s = (.ok es, s')) (hnodup : (gs.map Prod.fst).Nodup)
    (hfresh : s.pending.lookup (profile, name) = none) (hmem : (name, .sequence o) ∈ gs) :
    ∃ v, nextMember o (d.sequences.lookup (profile, name)) = .ok v ∧
      Entries.get? es name = some v ∧ s'.pending.lookup (profile, name) = some v := by
  induction gs generalizing s es with
  | nil => cases hmem
  | cons e rest ih =>
    obtain ⟨other, g⟩ := e
    obtain ⟨v, mid, more, hfirst, hrest, rfl⟩ := generateAll_cons_ok h
    rw [List.map_cons, List.nodup_cons] at hnodup
    rcases List.mem_cons.1 hmem with heq | hmem
    · -- The sequence itself: no later generator has its name.
      cases heq
      obtain ⟨hnext, hmoved⟩ := generate_sequence hfresh hfirst
      refine ⟨v, hnext, by simp [Entries.get?_cons_text], ?_⟩
      rw [generateAll_frame hrest fun _ => hnodup.1, hmoved]
    · -- Another generator first: it leaves this sequence as it was, pending and committed.
      have hne : other ≠ name := by
        rintro rfl
        exact hnodup.1 (List.mem_map.2 ⟨_, hmem, rfl⟩)
      have hkey : (profile, name) ≠ (profile, other) := by simpa using hne.symm
      have hmid := d.generate_frame fresh hkey g s
      rw [hfirst] at hmid
      obtain ⟨w, hnext, hget, hmoved⟩ := ih hrest hnodup.2 (hmid.trans hfresh) hmem
      exact ⟨w, hnext, by simpa [Entries.get?_cons_text, hne] using hget, hmoved⟩

/-- The first generator that fails ends a draw. -/
theorem generateAll_error {profile : String} {gs : List (String × Generator)} {s : Source F}
    {f : Fault} (h : (d.generateAll fresh profile gs s).1 = .error f) :
    ∃ name g s', (name, g) ∈ gs ∧ (d.generate fresh (profile, name) g s').1 = .error f := by
  induction gs generalizing s with
  | nil => cases h
  | cons e rest ih =>
    obtain ⟨name, g⟩ := e
    rw [generateAll] at h
    split at h
    · next hfirst =>
      cases h
      exact ⟨name, g, s, List.mem_cons_self, by rw [hfirst]⟩
    · next mid hfirst =>
      split at h
      · next hrest =>
        cases h
        obtain ⟨other, g', s', hmem, hfails⟩ := ih (s := mid) (by rw [hrest])
        exact ⟨other, g', s', List.mem_cons_of_mem _ hmem, hfails⟩
      · cases h

/-! ## Draws -/

theorem drawFrom_ok {p : Profile} {u : UserContext}
    (h : d.drawFrom fresh p = (.ok u, d')) :
    ∃ rows es s, d.rows.lookup p.name = some rows ∧
      d.generateAll fresh p.name p.generators ⟨d.random, d.fakes, []⟩ = (.ok es, s) ∧
      u = ⟨p.name, rows.getD ((d.tally p.name).cursor % rows.length) [], p.bindings, es⟩ ∧
      d' = commit { d with random := s.random, fakes := s.fakes } p.name s.pending := by
  unfold drawFrom nextRow? at h
  cases hrows : d.rows.lookup p.name with
  | none => simp [hrows] at h
  | some rows =>
    simp only [hrows, Option.map_some] at h
    cases hall : d.generateAll fresh p.name p.generators ⟨d.random, d.fakes, []⟩ with
    | mk generated s =>
      cases generated with
      | error f => simp [hall] at h
      | ok es =>
        simp only [hall, Prod.mk.injEq, Except.ok.injEq] at h
        exact ⟨rows, es, s, rfl, rfl, h.1.symm, h.2.symm⟩

/-- A draw fails only where no rows are in place or a generator fails, and then nothing has changed
    but the random numbers and what the library of fake data remembers. -/
theorem drawFrom_error {p : Profile} {f : Failure}
    (h : d.drawFrom fresh p = (.error f, d')) :
    d' = { d with random := d'.random, fakes := d'.fakes } ∧
      ((d.rows.lookup p.name = none ∧ f = .source (.notLoaded p.name)) ∨
        ∃ e, f = .fault e ∧ (d.generateAll fresh p.name p.generators
          ⟨d.random, d.fakes, []⟩).1 = .error e) := by
  unfold drawFrom nextRow? at h
  cases hrows : d.rows.lookup p.name with
  | none =>
    simp only [hrows, Option.map_none, Prod.mk.injEq, Except.error.injEq] at h
    obtain ⟨rfl, rfl⟩ := h
    exact ⟨rfl, .inl ⟨rfl, rfl⟩⟩
  | some rows =>
    simp only [hrows, Option.map_some] at h
    cases hall : d.generateAll fresh p.name p.generators ⟨d.random, d.fakes, []⟩ with
    | mk generated s =>
      cases generated with
      | ok es => simp [hall] at h
      | error e =>
        simp only [hall, Prod.mk.injEq, Except.error.injEq] at h
        obtain ⟨rfl, rfl⟩ := h
        exact ⟨rfl, .inr ⟨e, rfl, rfl⟩⟩

/-- A draw takes one random number and then draws from one of the profiles. -/
theorem draw_eq_drawFrom (hshares : d.shares ≠ []) (fresh : Fresh) :
    ∃ t, ∃ p ∈ d.shares.map Share.profile,
      d.draw fresh = { d with random := t }.drawFrom fresh p := by
  have hselect : ∀ t r, ∃ p ∈ d.shares.map Share.profile,
      { d with random := t }.select r = some p := by
    intro t r
    simp only [select]
    cases hfind : d.shares.find? fun s =>
        atMost r (Binary64.reading s.cumulative) && isPositive s.profile.weight with
    | some s => exact ⟨_, List.mem_map_of_mem (List.mem_of_find?_eq_some hfind), by simp⟩
    | none =>
      refine ⟨_, List.mem_map_of_mem (List.getLast_mem hshares), ?_⟩
      simp [List.getLast?_eq_some_getLast hshares]
  obtain ⟨p, hp, hsome⟩ := hselect d.random.unit.2 (Binary64.reading d.random.unit.1)
  refine ⟨d.random.unit.2, p, hp, ?_⟩
  simp only [draw]
  rw [hsome]

/-! ## Reloads -/

theorem atLeastOne_ne_nil (rows : List Entries) : atLeastOne rows ≠ [] := by
  cases rows <;> simp [atLeastOne]

/-- Nothing but rows has changed, and no profile has lost its rows. -/
structure Reloaded (d d' : Distributor F) : Prop where
  frame : d' = { d with rows := d'.rows }
  keeps : ∀ name, (d.rows.lookup name).isSome → (d'.rows.lookup name).isSome
  filled : (∀ e ∈ d.rows, e.2 ≠ []) → ∀ e ∈ d'.rows, e.2 ≠ []

namespace Reloaded

theorem refl (d : Distributor F) : d.Reloaded d :=
  ⟨rfl, fun _ => id, id⟩

theorem trans {d₁ d₂ d₃ : Distributor F} (h : d₁.Reloaded d₂) (h' : d₂.Reloaded d₃) :
    d₁.Reloaded d₃ where
  frame := by
    rw [h'.frame, h.frame]
  keeps name hname := h'.keeps name (h.keeps name hname)
  filled hd := h'.filled (h.filled hd)

theorem assign (d : Distributor F) (name : String) (rows : List Entries) :
    d.Reloaded { d with rows := assign name (atLeastOne rows) d.rows } where
  frame := rfl
  keeps other hother := by
    rw [lookup_assign]
    split
    · rfl
    · exact hother
  filled hd e he := by
    rcases mem_assign he with rfl | he
    · exact atLeastOne_ne_nil rows
    · exact hd e he

end Reloaded

theorem loadProfiles_reloaded {disk : Files.Disk} {folder : Files.Path} {ps : List Profile}
    {r : Attempt Unit} (h : loadProfiles disk folder d ps = (r, d')) : d.Reloaded d' := by
  induction ps generalizing d with
  | nil =>
    cases h
    exact .refl _
  | cons p rest ih =>
    rw [loadProfiles] at h
    split at h
    · exact ih h
    · split at h
      · cases h
        exact .refl _
      · exact (Reloaded.assign _ _ _).trans (ih h)

/-- Sources are read up to the first that cannot be. -/
theorem loadProfiles_ensures (disk : Files.Disk) (folder : Files.Path) (d : Distributor F)
    (ps : List Profile) :
    Ensures (loadProfiles disk folder d ps).1
      (fun _ => ∀ p ∈ ps, ∀ source, Text.given? p.dataSource = some source →
        ∃ rows, Rows.load disk folder source = .ok rows)
      (fun f => ∃ p ∈ ps, ∃ source, Text.given? p.dataSource = some source ∧
        Rows.load disk folder source = .error f) := by
  induction ps generalizing d with
  | nil => exact nofun
  | cons p rest ih =>
    rw [loadProfiles]
    split
    · next hnone =>
      refine (ih d).imp (fun _ h => ?_) fun f h => ?_
      · exact List.forall_mem_cons.2 ⟨by simp [hnone], h⟩
      · obtain ⟨q, hq, hfails⟩ := h
        exact ⟨q, List.mem_cons_of_mem _ hq, hfails⟩
    · next source hsource =>
      split
      · next f hload => exact ⟨p, List.mem_cons_self, source, hsource, hload⟩
      · next rows hload =>
        refine (ih _).imp (fun _ h => List.forall_mem_cons.2 ⟨?_, h⟩) fun f h => ?_
        · intro other hother
          cases hsource.symm.trans hother
          exact ⟨rows, hload⟩
        · obtain ⟨q, hq, hfails⟩ := h
          exact ⟨q, List.mem_cons_of_mem _ hq, hfails⟩

/-- A reload that succeeds leaves rows for every profile that names a source. -/
theorem loadProfiles_ok {disk : Files.Disk} {folder : Files.Path} {ps : List Profile}
    (h : loadProfiles disk folder d ps = (.ok (), d')) {p : Profile} (hp : p ∈ ps)
    (hsource : (Text.given? p.dataSource).isSome) : (d'.rows.lookup p.name).isSome := by
  induction ps generalizing d with
  | nil => cases hp
  | cons q rest ih =>
    rw [loadProfiles] at h
    split at h
    · rename_i hnone
      rcases List.mem_cons.1 hp with rfl | hp
      · simp [hnone] at hsource
      · exact ih h hp
    · split at h
      · cases h
      · rcases List.mem_cons.1 hp with rfl | hp
        · exact (loadProfiles_reloaded h).keeps p.name (by simp)
        · exact ih h hp

end Distributor

end ApiJourney
