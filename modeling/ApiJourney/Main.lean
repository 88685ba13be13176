-- SUMMARY: The command line program.
import ApiJourney.Cli.Execution
import ApiJourney.Cli.Inputs
import ApiJourney.Files.Tree
import ApiJourney.Profile.Provider
import ApiJourney.Value.Portable
import Std.Time.DateTime.Timestamp

/-!
# Command line program

Reads the files that a command looks at, carries the command out, and prints what it
leaves. Everything else is decided by the command itself.
-/

namespace ApiJourney.Program

open Files

/-! ## Surroundings -/

/-- Whether a folder is found at a path. -/
def isFolder (p : Path) : BaseIO Bool := do
  match ← (IO.FS.realPath p.text).toBaseIO with
  | .ok place => place.isDir
  | .error _ => return false

/-- A tree with what is found at a path; a file may be there and closed. -/
def look (t : Tree) (p : Path) : BaseIO Tree := do
  match ← (IO.FS.readBinFile p.text).toBaseIO with
  | .ok bytes => return t.addFile p (.ok bytes.toList)
  | .error (.permissionDenied _ _ _) => return t.addFile p (.error .noPermission)
  | .error _ => return if ← isFolder p then t.addFolder p else t

/-- A tree with all that a command looks at. Each round makes more places known: the settings,
    then the profiles that they name, then the data sources of these. -/
def explore (a : Cli.Arguments) (bindings : List (String × String)) (t : Tree) : Nat → BaseIO Tree
  | 0 => return t
  | rounds + 1 => do
    let t ← (Cli.inputs ⟨t.store, bindings⟩ a).foldlM look t
    explore a bindings t rounds

def bindings : IO (List (String × String)) := do
  let values ← [Runner.settingsVariable, Runner.levelVariable].mapM fun name => do
    return (← IO.getEnv name).map (name, ·)
  return values.filterMap id

def surroundings (a : Cli.Arguments) : IO Runner.Surroundings := do
  let work := Path.ofText (← IO.currentDir).toString
  let bindings ← bindings
  let t ← explore a bindings ⟨work, [], []⟩ 3
  return ⟨t.store, bindings⟩

/-! ## Supply -/

/-- A random number of so many bytes. -/
def randomNumber (bytes : USize) : IO Nat := do
  return (← IO.getRandomBytes bytes).toList.foldl (fun n b => n * 256 + b.toNat) 0

/-- All that is asked for is taken from one moment; no two identifiers are the same. -/
def supply : IO (Cli.Supply .small) := do
  let now ← Std.Time.Timestamp.now
  let moment : Moment := ⟨now.toMillisecondsSinceUnixEpoch.val.toNat⟩
  let bits ← randomNumber 16
  let node ← randomNumber 8
  return {
    clock := fun n => .ofMoment moment (bits + n) node
    entropy := ← randomNumber 32
    fakes := Faker.Small.atFirst (← randomNumber 32)
    dump := Value.portable
    print := fun line => if Text.isEncodable line then .ok () else .error .unencodable }

/-! ## Printing -/

/-- What a command leaves is printed; a fault is named. -/
def finish : Except Fault Cli.Exit → IO UInt32
  | .ok e => do
    e.lines.forM fun line => IO.println line
    e.problem.forM fun problem => IO.eprintln problem
    return UInt32.ofNat e.code
  | .error f => do
    IO.eprintln f.name
    return 1

def run (words : List String) : IO UInt32 := do
  match Cli.Arguments.read words with
  | .error .help =>
    Cli.usageLines.forM fun line => IO.println line
    return 0
  | .error .usage =>
    Cli.usageLines.forM fun line => IO.eprintln line
    return 2
  | .ok a => finish (Cli.run (← surroundings a) (← supply) a)

end ApiJourney.Program

def main (words : List String) : IO UInt32 :=
  ApiJourney.Program.run words
