-- SUMMARY: The codes that commands end with, and the faults that end them without one.
import ApiJourney.Cli.Execution
import ApiJourney.Cli.Inputs
import ApiJourney.Files.Tree
import ApiJourney.Proofs.Journey.Verdict
import ApiJourney.Proofs.Profile.Stored
import ApiJourney.Proofs.Runner.Layers
import ApiJourney.Proofs.User.Rounds

/-!
# Exits of commands

A command ends with 1 where it validates a wrong journey, and with 2 where something that it needs
cannot be had and it says so. What it does not say ends it without a code: a disk that does not
answer, a document or a source that its reader gives up for more than that it is malformed, a body
that is no JSON, templates of the journey that cannot be filled when it is loaded, a library of
fake data that fails, a generator that counts too far or calls in vain, a user that cannot be
shown, a round that comes to a fault, and an output that does not take a line.
-/

namespace ApiJourney.Cli

open Files Runner

variable {F : Faker} {s : Surroundings} {settings : Settings} {supply : Supply F} {a : Arguments}
  {f : Fault}

/-! ## Needs -/

/-- The paths that a command works out. -/
inductive Asks (s : Surroundings) (a : Arguments) : Path → Prop where
  | journey {path : String} : a.command.journey? = some path → Asks s a (.ofText path)
  | profiles {path : Path} : profilesPath s a = some path → Asks s a path

/-- The documents that a command needs. -/
inductive Needs (s : Surroundings) (a : Arguments) : Path → Prop where
  | settings {path : Path} : Settles s a.sources path → Needs s a path
  | asked {path place : Path} : Asks s a path → s.files.resolve path = .ok place → Needs s a place

/-- The sources of data rows that a command needs, with the folders that they are below. -/
inductive NeedsRows (s : Surroundings) (a : Arguments) : Path → String → Prop where
  | rows {path place : Path} {c : ProfileConfig} {p : Profile} {source : String} :
      profilesPath s a = some path → s.files.resolve path = .ok place →
      ProfileConfig.ofFile s.files place = .ok c → p ∈ c.profiles →
      Text.given? p.dataSource = some source → NeedsRows s a place.parent source

/-- All that a command needs is there. -/
structure Provided (s : Surroundings) (a : Arguments) : Prop where
  settings : ∃ file, settingsFile s a.sources = .ok file
  environment : ∃ file, a.environment.file? s.files.toDisk = .ok file
  place : ∀ path, Asks s a path → ∃ place, s.files.resolve path = .ok place
  document : ∀ path, Needs s a path → ∃ v, s.files.document path = .ok v
  rows : ∀ folder source, NeedsRows s a folder source →
    ∃ rows, Rows.load s.files.toDisk folder source = .ok rows
  body : ∀ x, a.command = .simulate x → ∃ v, bodyOf x.body = .ok v

/-- The document at a path that is worked out. -/
def Reached (s : Surroundings) (path : Path) : Prop :=
  ∃ place v, s.files.resolve path = .ok place ∧ s.files.document place = .ok v

/-- Where settings, a journey, profiles with their rows and a body could be had, nothing else is
    needed. -/
theorem Provided.of_parts (hsettings : Settings.ofSources s a.sources = .ok settings)
    (hjourney : ∀ path, a.command.journey? = some path → Reached s (.ofText path))
    (hprofiles : ∀ path, profilesPath s a = some path → ∃ seed entropy fakes,
      ∃ d : Distributor F, Distributor.ofFile s.files path none seed entropy fakes = .ok d)
    (hbody : ∀ x, a.command = .simulate x → ∃ v, bodyOf x.body = .ok v) : Provided s a := by
  obtain ⟨hfile, hsource, hdocuments⟩ := found_of_ofSources hsettings
  have hfound : ∀ path, Asks s a path → Reached s path := fun path hasks => by
    cases hasks with
    | journey hpath => exact hjourney _ hpath
    | profiles hpath =>
      obtain ⟨seed, entropy, fakes, d, hd⟩ := hprofiles _ hpath
      obtain ⟨place, c, _, hplace, hc, -⟩ := Distributor.ofFile_eq_ok hd
      obtain ⟨v, hv, -⟩ := Distributor.read_of_ofFile hc
      exact ⟨place, v, hplace, hv⟩
  refine ⟨hfile, hsource, fun path hasks => ?_, fun path hneeds => ?_, fun folder source hneeds => ?_,
    hbody⟩
  · obtain ⟨place, -, hplace, -⟩ := hfound path hasks
    exact ⟨place, hplace⟩
  · cases hneeds with
    | settings hpath => exact hdocuments _ hpath
    | asked hasks hplace =>
      obtain ⟨place, v, hplace', hv⟩ := hfound _ hasks
      cases hplace.symm.trans hplace'
      exact ⟨v, hv⟩
  · -- The rows are those of the distributor that was read, so its load has opened their file.
    cases hneeds with
    | @rows path place c p source hpath hplace hc hp hsource =>
      obtain ⟨seed, entropy, fakes, d, hd⟩ := hprofiles path hpath
      obtain ⟨place', c', made, hplace', hc', hmade, hload⟩ := Distributor.ofFile_eq_ok hd
      cases hplace.symm.trans hplace'
      cases hc.symm.trans hc'
      rw [← (Distributor.ofConfig_eq_ok hmade).1] at hp
      have hloaded := Distributor.loadProfiles_ensures s.files.toDisk place.parent
        made (made.shares.map Share.profile)
      exact hloaded.of_ok (congrArg Prod.fst hload) p hp source hsource

/-! ## Journeys -/

/-- How a command line ends, but for what it prints. -/
def ending (s : Surroundings) (supply : Supply F) (a : Arguments) : Attempt Nat := do
  let settings ← Settings.ofSources s a.sources
  (carryOut s supply settings a.command).ending

/-- The output does not take a line of a command. -/
inductive Unprinted (s : Surroundings) (supply : Supply F) (a : Arguments) : Fault → Prop where
  | line {settings : Settings} {line : String} {f : Fault} :
      Settings.ofSources s a.sources = .ok settings →
      line ∈ (carryOut s supply settings a.command).lines → supply.print line = .error f →
      Unprinted s supply a f

theorem exit_ensures (print : String → Except Fault Unit) (p : Printed) : Ensures (p.exit print)
    (fun e => p.ending = .ok e.code ∨ e.code = 2 ∧ ∃ e', p.ending = .error e')
    (fun f => p.ending = .error (.fault f) ∨ ∃ line ∈ p.lines, print line = .error f) := by
  obtain ⟨lines, ending⟩ := p
  unfold Printed.exit
  cases hprint : lines.forM print with
  | error f => exact .inr (exists_of_forM_error hprint)
  | ok _ =>
    cases ending with
    | ok code => exact .inl rfl
    | error e =>
      cases e with
      | fault f => exact .inl rfl
      | _ => exact .inr ⟨rfl, _, rfl⟩

/-- A command line leaves the code that it ends with, or 2 where it fails; it has no exit where it
    fails with a fault, or where the output does not take a line. -/
theorem run_ensures (s : Surroundings) (supply : Supply F) (a : Arguments) :
    Ensures (run s supply a)
      (fun e => ending s supply a = .ok e.code ∨
        e.code = 2 ∧ ∃ e', ending s supply a = .error e')
      (fun f => ending s supply a = .error (.fault f) ∨ Unprinted s supply a f) := by
  unfold run ending
  cases hsettings : Settings.ofSources s a.sources with
  | ok settings =>
    refine (exit_ensures supply.print (carryOut s supply settings a.command)).imp
      (fun _ h => h) fun f h => ?_
    exact h.imp_right fun ⟨line, hline, hfails⟩ => .line hsettings hline hfails
  | error e =>
    refine (exit_ensures supply.print ⟨[], .error e⟩).imp (fun _ h => h) fun f h => ?_
    exact h.imp_right nofun

/-- What every request of a simulation is answered with. -/
def answer (status : Int) (body : Value) : Response :=
  ⟨status, [(.text "content-type", .text "application/json")], body, Binary64.zero false⟩

/-! ## Faults -/

end ApiJourney.Cli
