-- SUMMARY: Drawing synthetic users from weighted profiles.
import ApiJourney.Identifier
import ApiJourney.Moment
import ApiJourney.Profile.Basic
import ApiJourney.Profile.Faker
import ApiJourney.Profile.Rows
import ApiJourney.Random.Twister

/-!
# Distributor

A distributor draws users. Each draw picks a profile by its weight, hands out the next of
its data rows, from the first again behind the last, and runs its generators; fake data come
from a library. A draw that fails leaves cursors, sequences and counts as they were; only the
random numbers that it took are gone, and the library may remember it.

Profiles are stored in one file. The data sources that they name are looked for in the
folder of that file, unless another one is given.
-/

namespace ApiJourney

open ApiJourney.Files

/-- A profile with the sum of the shares up to its own. -/
structure Share where
  profile : Profile
  share : Float
  cumulative : Float

/-- How far the draws of one profile have come. -/
structure Tally where
  /-- How many rows were handed out. -/
  cursor : Nat
  /-- How many users were drawn. -/
  count : Nat
  deriving DecidableEq

/-- The place of a generator: its profile and its own name. -/
abbrev GeneratorKey := String × String

structure Distributor (F : Faker) where
  shares : List Share
  /-- What the generators of fake data call. -/
  providers : List (GeneratorKey × F.Member)
  random : Twister
  /-- What the library of fake data remembers. -/
  fakes : F.State
  rows : List (String × List Entries)
  tallies : List (String × Tally)
  sequences : List (GeneratorKey × Value)
  total : Nat

namespace Distributor

variable {F : Faker}

/-- An association put over the one of the same key, or behind all others. -/
def assign [DecidableEq κ] (key : κ) (value : α) : List (κ × α) → List (κ × α)
  | [] => [(key, value)]
  | (k, v) :: rest => if k = key then (k, value) :: rest else (k, v) :: assign key value rest

/-! ## Construction -/

def isPositive (x : Float) : Bool :=
  Schema.reaches true 0 x

def totalWeight (ps : List Profile) : Float :=
  ps.foldl (fun sum p => sum + p.weight) (Binary64.zero false)

/-- Each profile with its share of the total and the sum of the shares so far. -/
def sharesFrom (total sum : Float) : List Profile → List Share
  | [] => []
  | p :: rest =>
    let share := p.weight / total
    ⟨p, share, sum + share⟩ :: sharesFrom total (sum + share) rest

/-- The rows of a profile that has them in place; without any it has one empty row. -/
def ownRows? (p : Profile) : Option (List Entries) :=
  match Text.given? p.dataSource, p.data with
  | some _, _ => none
  | none, some (row :: rows) => some (row :: rows)
  | none, _ => some [[]]

/-- What the generators of a profile call. -/
def providersOf (seed : Option Int) (p : Profile) : List (String × Generator) →
    Faker.Instances F → Attempt (List (GeneratorKey × F.Member) × Faker.Instances F)
  | [], i => .ok ([], i)
  | (name, .faker o) :: rest, i => do
    let (m, i) ← Faker.resolve seed name p.name o i
    let (more, i) ← providersOf seed p rest i
    .ok (((p.name, name), m) :: more, i)
  | _ :: rest, i => providersOf seed p rest i

def allProviders (seed : Option Int) : List Profile → Faker.Instances F →
    Attempt (List (GeneratorKey × F.Member) × Faker.Instances F)
  | [], i => .ok ([], i)
  | p :: rest, i => do
    let (own, i) ← providersOf seed p p.generators i
    let (more, i) ← allProviders seed rest i
    .ok (own ++ more, i)

/-- A distributor for profiles. Without a seed the draws start from the entropy; the library of
    fake data starts from what it remembers. -/
def ofConfig (c : ProfileConfig) (seed : Option Int) (entropy : Int) (fakes : F.State) :
    Attempt (Distributor F) :=
  let total := totalWeight c.profiles
  if !isPositive total then .error (.misconfigured .noWeight)
  else do
    let (providers, i) ← allProviders seed c.profiles ⟨[], fakes⟩
    .ok {
      shares := sharesFrom total (Binary64.zero false) c.profiles
      providers
      random := Twister.ofSeed (seed.getD entropy)
      fakes := i.state
      rows := c.profiles.filterMap fun p => (ownRows? p).map fun rows => (p.name, rows)
      tallies := c.profiles.map fun p => (p.name, ⟨0, 0⟩)
      sequences := []
      total := 0 }

/-! ## Data sources -/

/-- A source without rows counts as one empty row. -/
def atLeastOne (rows : List Entries) : List Entries :=
  if rows.isEmpty then [[]] else rows

/-- The sources of profiles read one after the other; what was read before a failure stays. -/
def loadProfiles (disk : Disk) (folder : Path) (d : Distributor F) :
    List Profile → Attempt Unit × Distributor F
  | [] => (.ok (), d)
  | p :: rest =>
    match Text.given? p.dataSource with
    | none => loadProfiles disk folder d rest
    | some source =>
      match Rows.load disk folder source with
      | .error f => (.error f, d)
      | .ok rows => loadProfiles disk folder { d with rows := assign p.name (atLeastOne rows) d.rows } rest

/-- All sources read, looked for below a folder. -/
def load (d : Distributor F) (disk : Disk) (folder : Path) : Attempt Unit × Distributor F :=
  loadProfiles disk folder d (d.shares.map Share.profile)

/-! ## Selection -/

def atMost (a b : Reading) : Bool :=
  match a.order b with
  | some .gt => false
  | some _ => true
  | none => false

/-- The first profile with a weight whose cumulative share reaches a number, else the last one. -/
def select (d : Distributor F) (r : Reading) : Option Profile :=
  ((d.shares.find? fun s => atMost r (Binary64.reading s.cumulative) && isPositive s.profile.weight).or
    d.shares.getLast?).map Share.profile

/-! ## Generators -/

/-- Random numbers, fake data and sequences while the generators of one draw run. -/
structure Source (F : Faker) where
  random : Twister
  fakes : F.State
  /-- The sequences that the draw has moved on. -/
  pending : List (GeneratorKey × Value)

/-- The sum of two numbers of a sequence. -/
def plus : Value → Value → Except Fault Value
  | .int a, .int b => .ok (.int (a + b))
  | .int a, .float y =>
    match Binary64.ofInt? a with
    | some x => .ok (.float (x + y))
    | none => .error .overflow
  | .float x, .int b =>
    match Binary64.ofInt? b with
    | some y => .ok (.float (x + y))
    | none => .error .overflow
  | .float x, .float y => .ok (.float (x + y))
  | _, _ => .error .wrongType

/-- The member of a sequence behind the last one, its start when there is none. -/
def nextMember (o : SequenceOptions) : Option Value → Except Fault Value
  | none => .ok o.start
  | some v => plus v o.step

def drawText (charset : Array Char) : Nat → Twister → List Char × Twister
  | 0, t => ([], t)
  | n + 1, t =>
    let (c, t) := t.choose charset
    let (cs, t) := drawText charset n t
    (c :: cs, t)

/-- A random number between its bounds, or a random text; there is no number between bounds that
    are out of order. -/
def drawRandom (o : RandomOptions) (t : Twister) : Except Fault (Value × Twister) :=
  match Text.given? o.charset with
  | some cs =>
    let (chars, t) := drawText cs.toList.toArray o.drawnLength t
    .ok (.text (String.ofList chars), t)
  | none =>
    if o.high < o.low then .error .badValue
    else
      let (n, t) := t.between o.low o.high
      .ok (.int n, t)

/-- A random identifier, or in the first version one made from the time. -/
def drawUuid (fresh : Fresh) (version : Int) (t : Twister) : Value × Twister :=
  if version == 1 then (.text fresh.timeUuid, t)
  else
    let (n, t) := t.bits 128
    (.text (Identifier.ofBits n), t)

def timeValue (fresh : Fresh) : TimeFormat → Value
  | .milliseconds => fresh.milliseconds
  | .seconds => fresh.seconds
  | .iso => .text fresh.iso

/-- The value of a call to the library of fake data. -/
def callProvider (d : Distributor F) (key : GeneratorKey) (o : FakerOptions) (s : Source F) :
    Except Fault Value × Source F :=
  match d.providers.lookup key with
  | none => (.error .missingKey, s)
  | some m =>
    let (v, fakes) := F.call m o.args o.kwargs s.fakes
    (v, { s with fakes })

/-- The value of a generator, and what it leaves. -/
def generate (d : Distributor F) (fresh : Fresh) (key : GeneratorKey) (g : Generator)
    (s : Source F) : Except Fault Value × Source F :=
  match g with
  | .uuid version =>
    let (v, t) := drawUuid fresh version s.random
    (.ok v, { s with random := t })
  | .timestamp format => (.ok (timeValue fresh format), s)
  | .random o =>
    match drawRandom o s.random with
    | .ok (v, t) => (.ok v, { s with random := t })
    | .error f => (.error f, s)
  | .sequence o =>
    match nextMember o ((s.pending.lookup key).or (d.sequences.lookup key)) with
    | .ok v => (.ok v, { s with pending := assign key v s.pending })
    | .error f => (.error f, s)
  | .faker o => d.callProvider key o s

/-- The values of generators in order, up to the first that fails. -/
def generateAll (d : Distributor F) (fresh : Fresh) (profile : String) :
    List (String × Generator) → Source F → Except Fault Entries × Source F
  | [], s => (.ok [], s)
  | (name, g) :: rest, s =>
    match d.generate fresh (profile, name) g s with
    | (.error f, s) => (.error f, s)
    | (.ok v, s) =>
      match generateAll d fresh profile rest s with
      | (.error f, s) => (.error f, s)
      | (.ok es, s) => (.ok ((.text name, v) :: es), s)

/-! ## Draws -/

def tally (d : Distributor F) (name : String) : Tally :=
  (d.tallies.lookup name).getD ⟨0, 0⟩

/-- The row that a profile hands out next. -/
def nextRow? (d : Distributor F) (name : String) : Option Entries :=
  (d.rows.lookup name).map fun rows => rows.getD ((d.tally name).cursor % rows.length) []

/-- A draw made known: cursor, count and total move on, and so do the sequences. -/
def commit (d : Distributor F) (name : String) (pending : List (GeneratorKey × Value)) :
    Distributor F :=
  let t := d.tally name
  { d with
    tallies := assign name ⟨t.cursor + 1, t.count + 1⟩ d.tallies
    sequences := pending.foldl (fun ss (k, v) => assign k v ss) d.sequences
    total := d.total + 1 }

/-- A user of a profile. -/
def drawFrom (d : Distributor F) (fresh : Fresh) (p : Profile) :
    Attempt UserContext × Distributor F :=
  match d.nextRow? p.name with
  | none => (.error (.source (.notLoaded p.name)), d)
  | some row =>
    let (generated, s) := d.generateAll fresh p.name p.generators ⟨d.random, d.fakes, []⟩
    let d := { d with random := s.random, fakes := s.fakes }
    match generated with
    | .error f => (.error (.fault f), d)
    | .ok es => (.ok ⟨p.name, row, p.bindings, es⟩, d.commit p.name s.pending)

/-- A user of a profile picked by weight. -/
def draw (d : Distributor F) (fresh : Fresh) : Attempt UserContext × Distributor F :=
  let (r, t) := d.random.unit
  let d := { d with random := t }
  match d.select (Binary64.reading r) with
  | none => (.error (.fault .outOfRange), d)
  | some p => d.drawFrom fresh p

/-- All sequences, cursors and counts at their start again. -/
def reset (d : Distributor F) : Distributor F :=
  { d with tallies := d.tallies.map (fun (n, _) => (n, ⟨0, 0⟩)), sequences := [], total := 0 }

/-! ## Statistics -/

def hundred : Float := Binary64.ofScaled false 100 0

/-- A share of a total in percent; of nothing it is zero. -/
def percentage (count total : Nat) : Float :=
  if total = 0 then Binary64.zero false else Binary64.nearest false count total * hundred

def stats (d : Distributor F) : ProfileStats :=
  { total := d.total
    counts := d.tallies.map fun (n, t) => (n, (t.count : Int))
    percentages := d.tallies.map fun (n, t) => (n, percentage t.count d.total) }

/-- The percentages that the weights ask for. -/
def target (d : Distributor F) : List (String × Float) :=
  d.shares.map fun s => (s.profile.name, s.share * hundred)

/-- How far the drawn percentages are above what the weights ask for. -/
def drift (d : Distributor F) : List (String × Float) :=
  d.shares.map fun s =>
    (s.profile.name, percentage (d.tally s.profile.name).count d.total - s.share * hundred)

end Distributor

/-! ## Stored profiles -/

/-- The profiles in a file. -/
def ProfileConfig.ofFile (s : Store) (path : Path) : Attempt ProfileConfig := do
  let v ← s.document path
  accepted "ProfileConfig" (ProfileConfig.read v)

/-- A distributor of the profiles in a file, with their data rows. -/
def Distributor.ofFile {F : Faker} (s : Store) (path : Path) (folder : Option Path)
    (seed : Option Int) (entropy : Int) (fakes : F.State) : Attempt (Distributor F) := do
  let path ← orFault (s.resolve path)
  let config ← ProfileConfig.ofFile s path
  let d ← Distributor.ofConfig config seed entropy fakes
  let (loaded, d) := d.load s.toDisk (folder.getD path.parent)
  loaded
  .ok d

end ApiJourney
