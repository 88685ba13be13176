-- SUMMARY: Journeys stored in files and folders.
import ApiJourney.Files.Disk
import ApiJourney.Journey.Loading

/-!
# Stored journeys

A journey is stored in a file of its own. In a folder, the ends of the names tell which
files hold journeys, and these are loaded in the order of their names.
-/

namespace ApiJourney

open Files

structure StoredJourney where
  loaded : LoadedJourney
  /-- The folder of the file. -/
  folder : Path

namespace StoredJourney

def suffixes : List String := [".journey.json", ".journey.yaml", ".journey.yml"]

/-- Whether a file of a name holds a journey. -/
def isJourneyName (name : String) : Bool :=
  suffixes.any fun s => Text.isSuffixOf s.toList (Text.lower name.toList)

/-- The journey in a file. -/
def ofFile (s : Store) (path : Path) (environment : Option Entries) (bindings : Entries) :
    Attempt StoredJourney := do
  let path ← orFault (s.resolve path)
  match ← s.document path with
  | .dict es => do
    let loaded ← LoadedJourney.ofDocument (.dict es) environment bindings
    .ok ⟨loaded, path.parent⟩
  | _ => .error (.document (.noObject path.text))

/-- The names of the journeys in a folder. -/
def namesIn (d : Disk) (folder : Path) : Except Fault (List String) := do
  let names ← d.names folder
  let files ← names.filterM fun name => d.isFile (folder.below ⟨"", [name]⟩)
  .ok ((files.filter isJourneyName).mergeSort fun a b => a ≤ b)

/-- All journeys in a folder. -/
def ofFolder (s : Store) (folder : Path) (environment : Option Entries) (bindings : Entries) :
    Attempt (List StoredJourney) := do
  if ← orFault (s.isFolder folder) then
    let names ← orFault (namesIn s.toDisk folder)
    names.mapM fun name => ofFile s (folder.below ⟨"", [name]⟩) environment bindings
  else .error (.missingFolder folder.text)

end StoredJourney

end ApiJourney
