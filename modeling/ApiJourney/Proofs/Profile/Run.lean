-- SUMMARY: Runs of requests to a distributor, and what holds of it after every one.
import ApiJourney.Files.Tree
import ApiJourney.Profile.Provider
import ApiJourney.Proofs.Profile.Acceptance
import ApiJourney.Proofs.Profile.Draws

/-!
# Runs of a distributor

A distributor serves requests in any order: draws, selections, statistics, reloads and resets.
All that it keeps of a profile is how many of its users were drawn since the last reset. That
number is its count and its cursor, and it tells the next row and the next member of each of
its sequences, whatever happened to other profiles, and however many draws failed.
-/

namespace ApiJourney.Distributor

variable {F : Faker}

/-! ## Requests -/

inductive Request where
  | draw (fresh : Fresh)
  | select (r : Reading)
  | stats
  | load (disk : Files.Disk) (folder : Files.Path)
  | reset

inductive Answer where
  | user (u : Attempt UserContext)
  | profile (p : Option Profile)
  | stats (s : ProfileStats)
  | loaded (r : Attempt Unit)
  | reset

def serve (d : Distributor F) : Request → Answer × Distributor F
  | .draw fresh =>
    let (u, d) := d.draw fresh
    (.user u, d)
  | .select r => (.profile (d.select r), d)
  | .stats => (.stats d.stats, d)
  | .load disk folder =>
    let (r, d) := d.load disk folder
    (.loaded r, d)
  | .reset => (.reset, d.reset)

/-- What the answers so far have shown. -/
structure History where
  /-- The profiles of the users drawn since the last reset, the last one first. -/
  drawn : List String
  /-- Whether a reload has succeeded. -/
  loaded : Bool

def History.start : History := ⟨[], false⟩

def History.record (h : History) : Answer → History
  | .user (.ok u) => { h with drawn := u.profile :: h.drawn }
  | .loaded (.ok ()) => { h with loaded := true }
  | .reset => { h with drawn := [] }
  | _ => h

/-- Requests served one after the other. -/
def serveAll (h : History) (d : Distributor F) : List Request → History × Distributor F
  | [] => (h, d)
  | r :: rest =>
    let (a, d) := d.serve r
    serveAll (h.record a) d rest

/-! ## Construction -/

variable {c : ProfileConfig} {h : History} {d d' : Distributor F} {fresh : Fresh}

theorem profiles_sharesFrom (total sum : Float) (ps : List Profile) :
    (sharesFrom total sum ps).map Share.profile = ps := by
  induction ps generalizing sum with
  | nil => rfl
  | cons p rest ih => simp [sharesFrom, ih]

theorem ownRows?_ne_nil {p : Profile} {rows : List Entries} (h : ownRows? p = some rows) :
    rows ≠ [] := by
  unfold ownRows? at h
  split at h
  · cases h
  · cases h
    exact List.cons_ne_nil _ _
  · cases h
    exact List.cons_ne_nil _ _

theorem isSome_ownRows? {p : Profile} (h : Text.given? p.dataSource = none) :
    (ownRows? p).isSome := by
  unfold ownRows?
  split
  · simp_all
  · rfl
  · rfl

theorem ofConfig_eq_ok {seed : Option Int} {entropy : Int} {fakes : F.State}
    (h : ofConfig c seed entropy fakes = .ok d) :
    d.shares.map Share.profile = c.profiles ∧
      d.rows = (c.profiles.filterMap fun p => (ownRows? p).map fun rows => (p.name, rows)) ∧
      d.tallies = (c.profiles.map fun p => (p.name, ⟨0, 0⟩)) ∧
      d.sequences = [] ∧ d.total = 0 := by
  simp only [ofConfig] at h
  split at h
  · cases h
  · obtain ⟨_, -, h⟩ := bind_eq_ok.1 h
    cases h
    exact ⟨profiles_sharesFrom _ _ _, rfl, rfl, rfl, rfl⟩

/-! ## Outcomes of a draw -/

/-- A user of a profile of which some were drawn: it has the row with that number, from the
    first again behind the last, and that member of each sequence. -/
structure IsNextUser (c : ProfileConfig) (h : History) (d : Distributor F) (p : Profile)
    (u : UserContext) : Prop where
  mem : p ∈ c.profiles
  profile : u.profile = p.name
  row : ∃ rows, d.rows.lookup p.name = some rows ∧
    rows[h.drawn.count p.name % rows.length]? = some u.data
  member : ∀ name start step, (name, .sequence ⟨.int start, .int step⟩) ∈ p.generators →
    u.generated.get? name = some (.int (start + h.drawn.count p.name * step))

/-- A draw that failed: it changed nothing but random numbers and what the library of fake data
    remembers, and once all sources were read it failed because of a generator. -/
structure IsFailedDraw (c : ProfileConfig) (h : History) (d : Distributor F) (fresh : Fresh)
    (f : Failure) (d' : Distributor F) : Prop where
  frame : d' = { d with random := d'.random, fakes := d'.fakes }
  cause : h.loaded = true → ∃ p ∈ c.profiles, ∃ t e, f = .fault e ∧
    (generateAll { d with random := t } fresh p.name p.generators ⟨t, d.fakes, []⟩).1
      = .error e

/-! ## What is kept -/

/-- A distributor whose cursors, counts and sequences are all told by its history. -/
structure Tracks (c : ProfileConfig) (h : History) (d : Distributor F) : Prop where
  profiles : d.shares.map Share.profile = c.profiles
  names : d.tallies.map Prod.fst = c.profiles.map Profile.name
  tally : ∀ p ∈ c.profiles,
    d.tallies.lookup p.name = some ⟨h.drawn.count p.name, h.drawn.count p.name⟩
  total : d.total = (d.tallies.map fun e => e.2.count).sum
  sequence : ∀ p ∈ c.profiles, ∀ name start step,
    (name, .sequence ⟨.int start, .int step⟩) ∈ p.generators →
      d.sequences.lookup (p.name, name) = memberAfter start step (h.drawn.count p.name)
  filled : ∀ e ∈ d.rows, e.2 ≠ []
  /-- Only rows from a source may be missing, and none once all sources were read. -/
  installed : ∀ p ∈ c.profiles, Text.given? p.dataSource = none ∨ h.loaded = true →
    (d.rows.lookup p.name).isSome

theorem tracks_ofConfig (hc : c.WellFormed) {seed : Option Int} {entropy : Int} {fakes : F.State}
    (hmade : ofConfig c seed entropy fakes = .ok d) : Tracks c .start d := by
  obtain ⟨hprofiles, hrows, htallies, hsequences, htotal⟩ := ofConfig_eq_ok hmade
  refine ⟨hprofiles, ?_, fun p hp => ?_, ?_, ?_, fun e he => ?_, fun p hp hgiven => ?_⟩
  · simp [htallies]
  · rw [htallies]
    refine lookup_of_mem ?_ (List.mem_map_of_mem hp)
    simpa [Function.comp_def] using hc.nodup_names
  · simp [htallies, htotal, Function.comp_def]
  · simp [hsequences, History.start, memberAfter]
  · rw [hrows] at he
    obtain ⟨p, -, hp⟩ := List.mem_filterMap.1 he
    obtain ⟨rows, hown, rfl⟩ := Option.map_eq_some_iff.1 hp
    exact ownRows?_ne_nil hown
  · have hnone : Text.given? p.dataSource = none := by simpa [History.start] using hgiven
    obtain ⟨rows, hown⟩ := Option.isSome_iff_exists.1 (isSome_ownRows? hnone)
    rw [isSome_lookup_iff, hrows]
    exact List.mem_map.2 ⟨(p.name, rows), List.mem_filterMap.2 ⟨p, hp, by simp [hown]⟩, rfl⟩

namespace Tracks

theorem shares_ne_nil (hc : c.WellFormed) (ht : Tracks c h d) : d.shares ≠ [] := by
  intro hnil
  exact hc.profiles_ne_nil (by rw [← ht.profiles, hnil, List.map_nil])

theorem tally_eq (ht : Tracks c h d) {p : Profile} (hp : p ∈ c.profiles) :
    d.tally p.name = ⟨h.drawn.count p.name, h.drawn.count p.name⟩ := by
  rw [Distributor.tally, ht.tally p hp, Option.getD_some]

/-- Random numbers and fake data are nothing that the history tells. -/
theorem withRandom (ht : Tracks c h d) (t : Twister) (fakes : F.State) :
    Tracks c h { d with random := t, fakes } :=
  ⟨ht.profiles, ht.names, ht.tally, ht.total, ht.sequence, ht.filled, ht.installed⟩

theorem member (ht : Tracks c h d) {p : Profile} (hp : p ∈ c.profiles)
    (hnodup : (p.generators.map Prod.fst).Nodup) {s s' : Source F} {es : Entries}
    (hs : s.pending = []) (hall : d.generateAll fresh p.name p.generators s = (.ok es, s'))
    {name : String} {start step : Int}
    (hname : (name, .sequence ⟨.int start, .int step⟩) ∈ p.generators) :
    Entries.get? es name = some (.int (start + h.drawn.count p.name * step)) ∧
      s'.pending.lookup (p.name, name) = memberAfter start step (h.drawn.count p.name + 1) := by
  obtain ⟨v, hnext, hget, hmoved⟩ :=
    generateAll_sequence hall hnodup (by simp [hs]) hname
  rw [ht.sequence p hp name start step hname, nextMember_memberAfter] at hnext
  cases hnext
  exact ⟨hget, hmoved⟩

/-- A draw of a profile made known counts for that profile and for no other. -/
theorem commit (hc : c.WellFormed) (ht : Tracks c h d) {p : Profile} (hp : p ∈ c.profiles)
    {s s' : Source F} {es : Entries} (hs : s.pending = [])
    (hall : d.generateAll fresh p.name p.generators s = (.ok es, s')) :
    Tracks c { h with drawn := p.name :: h.drawn } (d.commit p.name s'.pending) where
  profiles := ht.profiles
  names := by
    have hmem : p.name ∈ d.tallies.map Prod.fst := by
      rw [ht.names]
      exact List.mem_map_of_mem hp
    exact (keys_assign_of_mem hmem _).trans ht.names
  tally q hq := by
    simp only [Distributor.commit, lookup_assign, ht.tally_eq hp, List.count_cons]
    by_cases hname : q.name = p.name
    · simp [hname]
    · simp [hname, Ne.symm hname, ht.tally q hq]
  total := by
    have hsum := sum_assign Tally.count (ht.tally p hp)
      ⟨h.drawn.count p.name + 1, h.drawn.count p.name + 1⟩
    simp only [Distributor.commit, ht.tally_eq hp, ht.total] at hsum ⊢
    omega
  sequence q hq name start step hname := by
    have hnodup : (s'.pending.map Prod.fst).Nodup := generateAll_nodup hall (by simp [hs])
    simp only [Distributor.commit]
    rw [lookup_foldl_assign hnodup, List.count_cons]
    -- Only the profile that was drawn has sequences that move on.
    by_cases hpq : p.name = q.name
    · cases hc.eq_of_name_eq hp hq hpq
      rw [(ht.member hp (hc.nodup_generators p hp) hs hall hname).2]
      simp [memberAfter]
    · have hframe := generateAll_frame hall (k := (q.name, name)) fun heq => absurd heq.symm hpq
      rw [hframe, hs]
      simp [hpq, ht.sequence q hq name start step hname]
  filled := ht.filled
  installed := ht.installed

theorem load (ht : Tracks c h d) {disk : Files.Disk} {folder : Files.Path} {r : Attempt Unit}
    (hload : d.load disk folder = (r, d')) : Tracks c (h.record (.loaded r)) d' := by
  have hreloaded := loadProfiles_reloaded hload
  have hkept : Tracks c h d' := by
    rw [hreloaded.frame]
    exact ⟨ht.profiles, ht.names, ht.tally, ht.total, ht.sequence, hreloaded.filled ht.filled,
      fun p hp hgiven => hreloaded.keeps p.name (ht.installed p hp hgiven)⟩
  cases r with
  | error f => exact hkept
  | ok u =>
    refine ⟨hkept.profiles, hkept.names, hkept.tally, hkept.total, hkept.sequence, hkept.filled,
      fun p hp _ => ?_⟩
    cases hgiven : Text.given? p.dataSource with
    | none => exact hkept.installed p hp (.inl hgiven)
    | some source =>
      refine loadProfiles_ok hload ?_ (by simp [hgiven])
      rw [ht.profiles]
      exact hp

theorem reset (ht : Tracks c h d) : Tracks c { h with drawn := [] } d.reset where
  profiles := ht.profiles
  names := by
    rw [← ht.names]
    simp [Distributor.reset, Function.comp_def]
  tally p hp := by
    simp [Distributor.reset, lookup_map_snd (fun _ : Tally => (⟨0, 0⟩ : Tally)), ht.tally p hp]
  total := by simp [Distributor.reset, Function.comp_def]
  sequence := by simp [Distributor.reset, memberAfter]
  filled := ht.filled
  installed := ht.installed

theorem draw_ok (hc : c.WellFormed) (ht : Tracks c h d) {u : UserContext}
    (hdraw : d.draw fresh = (.ok u, d')) :
    Tracks c (h.record (.user (.ok u))) d' ∧ ∃ p, IsNextUser c h d p u := by
  obtain ⟨t, p, hp, heq⟩ := draw_eq_drawFrom (ht.shares_ne_nil hc) fresh
  rw [ht.profiles] at hp
  rw [heq] at hdraw
  obtain ⟨rows, es, s, hrows, hall, rfl, rfl⟩ := drawFrom_ok hdraw
  have htaken := ht.withRandom t d.fakes
  refine ⟨(htaken.commit hc hp rfl hall).withRandom _ _, p, hp, rfl, ⟨rows, hrows, ?_⟩, ?_⟩
  · have hpos : 0 < rows.length := by
      obtain ⟨before, after, hsplit, -⟩ := List.lookup_eq_some_iff.1 hrows
      have hne := ht.filled (p.name, rows) (by rw [hsplit]; simp)
      exact List.length_pos_iff.2 hne
    have hlt := Nat.mod_lt (h.drawn.count p.name) hpos
    simp [htaken.tally_eq hp, List.getD_eq_getElem?_getD, List.getElem?_eq_getElem hlt]
  · intro name start step hname
    exact (htaken.member hp (hc.nodup_generators p hp) rfl hall hname).1

theorem draw_error (hc : c.WellFormed) (ht : Tracks c h d) {f : Failure}
    (hdraw : d.draw fresh = (.error f, d')) : IsFailedDraw c h d fresh f d' := by
  obtain ⟨t, p, hp, heq⟩ := draw_eq_drawFrom (ht.shares_ne_nil hc) fresh
  rw [ht.profiles] at hp
  rw [heq] at hdraw
  obtain ⟨hframe, hcause⟩ := drawFrom_error hdraw
  refine ⟨hframe, fun hloaded => ⟨p, hp, t, ?_⟩⟩
  rcases hcause with ⟨hnone, -⟩ | hcause
  · have hsome := ht.installed p hp (.inr hloaded)
    simp only at hnone
    simp [hnone] at hsome
  · exact hcause

/-- Whatever is asked for, the distributor goes on being told by its history. -/
theorem serve (hc : c.WellFormed) (ht : Tracks c h d) (r : Request) :
    Tracks c (h.record (d.serve r).1) (d.serve r).2 := by
  cases r with
  | draw fresh =>
    cases hdraw : d.draw fresh with
    | mk u d' =>
      simp only [Distributor.serve, hdraw]
      cases u with
      | ok u => exact (ht.draw_ok hc hdraw).1
      | error f =>
        rw [(ht.draw_error hc hdraw).frame]
        exact ht.withRandom _ _
  | select r => exact ht
  | stats => exact ht
  | load disk folder => exact ht.load rfl
  | reset => exact ht.reset

theorem serveAll (hc : c.WellFormed) (ht : Tracks c h d) {rs : List Request} {h' : History}
    (hserve : serveAll h d rs = (h', d')) : Tracks c h' d' := by
  induction rs generalizing h d with
  | nil =>
    cases hserve
    exact ht
  | cons r rest ih => exact ih (ht.serve hc r) hserve

end Tracks

/-! ## The run law -/

/-- What holds of a distributor after the requests of a history. -/
structure RunLaw (c : ProfileConfig) (h : History) (d : Distributor F) : Prop where
  total_eq : d.total = (d.tallies.map fun e => e.2.count).sum
  count_eq_cursor : ∀ e ∈ d.tallies, e.2.count = e.2.cursor
  count_eq_drawn : ∀ p ∈ c.profiles, (d.tally p.name).count = h.drawn.count p.name
  rows_ne_nil : ∀ e ∈ d.rows, e.2 ≠ []
  installed : h.loaded = true → ∀ p ∈ c.profiles, (d.rows.lookup p.name).isSome
  draw_ok : ∀ fresh u d', d.draw fresh = (.ok u, d') → ∃ p, IsNextUser c h d p u
  draw_error : ∀ fresh f d', d.draw fresh = (.error f, d') → IsFailedDraw c h d fresh f d'

theorem Tracks.runLaw (hc : c.WellFormed) (ht : Tracks c h d) : RunLaw c h d where
  total_eq := ht.total
  count_eq_cursor e he := by
    have hname : e.1 ∈ c.profiles.map Profile.name := ht.names ▸ List.mem_map_of_mem he
    obtain ⟨p, hp, hpe⟩ := List.mem_map.1 hname
    have hlookup : d.tallies.lookup e.1 = some e.2 :=
      lookup_of_mem (ht.names ▸ hc.nodup_names) he
    rw [← hpe, ht.tally p hp, Option.some.injEq] at hlookup
    rw [← hlookup]
  count_eq_drawn p hp := by rw [ht.tally_eq hp]
  rows_ne_nil := ht.filled
  installed hloaded p hp := ht.installed p hp (.inr hloaded)
  draw_ok _ _ _ hdraw := (ht.draw_ok hc hdraw).2
  draw_error _ _ _ hdraw := ht.draw_error hc hdraw

/-- The run law holds of a distributor for accepted profiles after any requests, whatever library
    gives the fake data, and also while its sources are not read yet. -/
theorem serveAll_runLaw {v : Value} {seed : Option Int} {entropy : Int} {fakes : F.State}
    {made : Distributor F} {rs : List Request} (hread : ProfileConfig.read v = .accepted c)
    (hmade : ofConfig c seed entropy fakes = .ok made)
    (hserve : serveAll .start made rs = (h, d)) : RunLaw c h d :=
  have hc := ProfileConfig.wellFormed_of_read hread
  ((tracks_ofConfig hc hmade).serveAll hc hserve).runLaw hc

/-! ## Two profiles of shoppers -/

/-- A profile with rows in place, with numbers for orders and with a digit made up. -/
def shopper (name : String) (weight : Nat) (users : List String) (start step : Int) : Profile where
  name := name
  weight := Binary64.ofScaled false weight 0
  dataSource := none
  data := some (users.map fun user => [(.text "user", .text user)])
  bindings := []
  generators := [("order", .sequence ⟨.int start, .int step⟩),
    ("digit", .faker ⟨"number.randomDigit", [], [], none⟩)]

def shoppers : ProfileConfig :=
  ⟨none, none, [shopper "buyer" 3 ["ann", "bob"] 10 5, shopper "guest" 1 ["eve"] 1 1]⟩

/-- What the small library remembers at first. -/
def someFakes : Faker.small.State :=
  Faker.Small.atFirst 0

/-- The name of the digit falls back to its last part. -/
theorem ofConfig_shoppers : ∃ made, ofConfig shoppers (some 7) 0 someFakes = .ok made := by
  have hmade : (ofConfig shoppers (some 7) 0 someFakes).toOption.isSome = true := by
    decide +kernel
  cases hconfig : ofConfig shoppers (some 7) 0 someFakes with
  | ok made => exact ⟨made, rfl⟩
  | error f => simp [hconfig, Except.toOption] at hmade

/-- A disk with nothing but a working folder. -/
def emptyDisk : Files.Disk :=
  (Files.Tree.mk ⟨"/", ["work"]⟩ [] []).disk

/-- All sources read, a draw, and the statistics. -/
def visits : List Request :=
  [.load emptyDisk ⟨"/", ["work"]⟩, .draw ⟨"", "", .null, .null, ""⟩, .stats]

theorem loaded_visits {made : Distributor .small}
    (hmade : ofConfig shoppers (some 7) 0 someFakes = .ok made) :
    (serveAll .start made visits).1.loaded = true := by
  have hload (disk folder) : (made.load disk folder).1 = .ok () := by
    rw [load, (ofConfig_eq_ok hmade).1]
    rfl
  simp only [visits, serveAll, serve, hload, History.record]
  cases (draw _ _).1 <;> rfl

/-- All rows are in place after the reload, whatever the draw behind it gives. -/
theorem shoppers_runLaw :
    ProfileConfig.read shoppers.toValue = .accepted shoppers ∧
      ∃ made h d, ofConfig shoppers (some 7) 0 someFakes = .ok made ∧
        serveAll .start made visits = (h, d) ∧ h.loaded = true ∧ RunLaw shoppers h d := by
  have hread : ProfileConfig.read shoppers.toValue = .accepted shoppers := rfl
  obtain ⟨made, hmade⟩ := ofConfig_shoppers
  obtain ⟨h, d, hserve⟩ : ∃ h d, serveAll .start made visits = (h, d) := ⟨_, _, rfl⟩
  have hloaded := loaded_visits hmade
  rw [hserve] at hloaded
  exact ⟨hread, made, h, d, hmade, hserve, hloaded, serveAll_runLaw hread hmade hserve⟩

end ApiJourney.Distributor
