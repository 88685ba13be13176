-- SUMMARY: Distributors of profiles in files, and why none is made or a draw fails.
import ApiJourney.Profile.Distributor
import ApiJourney.Proofs.Profile.RandomValues
import ApiJourney.Proofs.Profile.Run
import ApiJourney.Proofs.Runner.Layers

/-!
# Stored profiles

A distributor of the profiles in a file is not made because of a fault only where the disk, a
reader or the library of fake data fails. What was made is a distributor behind a run, so that a
draw from it fails only at a generator that may fail.
-/

namespace ApiJourney

/-! ## Libraries that fail -/

namespace Faker

/-- The names on the path of a member, and the one that it falls back to. -/
def namesOf (path : String) : List String :=
  let parts := Text.split ['.'] none path.toList
  parts.map String.ofList ++ [String.ofList (snakeCase (parts.getLast?.getD []))]

/-- A library fails at what a generator calls, and not because a locale or a name is unknown. -/
inductive Fails (F : Faker) (seed : Option Int) (o : FakerOptions) : Fault → Prop where
  | creation {s : F.State} {f : Fault} : (F.create (Text.given? o.locale) seed s).1 = .error f →
      f ≠ .noAttribute → Fails F seed o f
  | member {m : F.Member} {name : String} {f : Fault} : name ∈ namesOf o.method →
      F.member m name = .error f → f ≠ .noAttribute → Fails F seed o f

variable {F : Faker} {f : Fault}

end Faker

/-! ## Sources that fail -/

namespace Rows

open Files

/-- What keeps the rows of a source from being had without being told: the disk says nothing about
    its path, does not hand out its bytes for another reason than the system has, or the text is
    given up for more than that it is malformed. -/
inductive Fails (disk : Disk) (path : Path) : Fault → Prop where
  | unanswered {f : Fault} : disk.isFile path = .error f → Fails disk path f
  | closed {f : Fault} : disk.isFile path = .ok true → disk.read path = .error f →
      f.isSystem = false → Fails disk path f
  | unread {bytes : List UInt8} {cs : List Char} {f : Fault} : disk.isFile path = .ok true →
      Text.lowered path.suffix = ".json" → disk.read path = .ok bytes →
      textOf bytes = .ok cs → Json.read cs = .error f → f ≠ .malformed → Fails disk path f

variable {disk : Disk} {path : Path} {f : Fault}

end Rows

/-! ## Distributors of stored profiles -/

namespace Distributor

open Files

variable {F : Faker} {s : Store} {path : Path} {c : ProfileConfig} {seed : Option Int}
  {entropy : Int} {fakes : F.State} {d d' : Distributor F} {f : Fault}

/-- Distributors of the profiles at a path, from any seed and behind any draws. -/
inductive DrawsFrom (s : Store) (path : Path) : Distributor F → Prop where
  | loaded {seed : Option Int} {entropy : Int} {fakes : F.State} {d : Distributor F} :
      ofFile s path none seed entropy fakes = .ok d → DrawsFrom s path d
  | drawn {fresh : Fresh} {d d' : Distributor F} {u : UserContext} : DrawsFrom s path d →
      d.draw fresh = (.ok u, d') → DrawsFrom s path d'

theorem read_of_ofFile (h : ProfileConfig.ofFile s path = .ok c) :
    ∃ v, s.document path = .ok v ∧ ProfileConfig.read v = .accepted c := by
  obtain ⟨v, hv, h⟩ := bind_eq_ok.1 h
  exact ⟨v, hv, accepted_eq_ok.1 h⟩

theorem ofFile_eq_ok (h : ofFile s path none seed entropy fakes = .ok d) :
    ∃ place c made, s.resolve path = .ok place ∧ ProfileConfig.ofFile s place = .ok c ∧
      ofConfig c seed entropy fakes = .ok made ∧
      made.load s.toDisk place.parent = (.ok (), d) := by
  obtain ⟨place, hplace, h⟩ := bind_eq_ok.1 h
  obtain ⟨c, hc, h⟩ := bind_eq_ok.1 h
  obtain ⟨made, hmade, h⟩ := bind_eq_ok.1 h
  obtain ⟨_, hloaded, h⟩ := bind_eq_ok.1 h
  cases h
  exact ⟨place, c, made, orFault_eq_ok.1 hplace, hc, hmade, Prod.ext hloaded rfl⟩

theorem DrawsFrom.tracks (h : DrawsFrom s path d) :
    ∃ place c x, s.resolve path = .ok place ∧ ProfileConfig.ofFile s place = .ok c ∧
      c.WellFormed ∧ x.loaded = true ∧ Tracks c x d := by
  induction h with
  | loaded hfile =>
    obtain ⟨place, c, made, hplace, hc, hmade, hloaded⟩ := ofFile_eq_ok hfile
    obtain ⟨v, -, hread⟩ := read_of_ofFile hc
    have hwell := ProfileConfig.wellFormed_of_read hread
    exact ⟨place, c, _, hplace, hc, hwell, rfl, (tracks_ofConfig hwell hmade).load hloaded⟩
  | drawn _ hdraw ih =>
    obtain ⟨place, c, x, hplace, hc, hwell, hloaded, htracks⟩ := ih
    refine ⟨place, c, _, hplace, hc, hwell, ?_, (htracks.draw_ok hwell hdraw).1⟩
    exact hloaded

/-- A generator of the profiles at a path that may fail does so. -/
inductive Falters (s : Store) (path : Path) (d : Distributor F) (fresh : Fresh) : Fault → Prop where
  | generator {place : Path} {c : ProfileConfig} {p : Profile} {name : String} {g : Generator}
      {source : Source F} {f : Fault} : s.resolve path = .ok place →
      ProfileConfig.ofFile s place = .ok c → p ∈ c.profiles → (name, g) ∈ p.generators →
      g.MayFail → (d.generate fresh (p.name, name) g source).1 = .error f →
      Falters s path d fresh f

/-- A draw from accepted profiles fails only at a generator that may fail. -/
theorem DrawsFrom.draw_error (h : DrawsFrom s path d) {fresh : Fresh} {e : Failure}
    (hdraw : d.draw fresh = (.error e, d')) : ∃ f, e = .fault f ∧ Falters s path d fresh f := by
  obtain ⟨place, c, x, hplace, hc, hwell, hloaded, htracks⟩ := h.tracks
  obtain ⟨p, hp, random, f, rfl, hall⟩ := (htracks.draw_error hwell hdraw).cause hloaded
  obtain ⟨name, g, source, hg, hfails⟩ := generateAll_error hall
  rw [generate_withRandom] at hfails
  obtain ⟨v, -, hread⟩ := read_of_ofFile hc
  obtain ⟨w, hw⟩ := ProfileConfig.exists_read_of_mem hread hp
  obtain ⟨w', hw'⟩ := Profile.read_of_mem_generators hw hg
  exact ⟨f, rfl, .generator hplace hc hp hg (Generator.mayFail_of_generate hw' hfails) hfails⟩

end Distributor

end ApiJourney
