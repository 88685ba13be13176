-- SUMMARY: Settings made from files, environments and overrides.
import ApiJourney.Files.Disk
import ApiJourney.Runner.Settings
import ApiJourney.Variables.Layers

/-!
# Layers of settings

Settings come in layers that are merged key by key, later ones over those before: the
project's settings file, an environment file, the path of the journey, and overrides. The
settings file is the nearest one above the journey, unless a path or a variable of the
process names another.
-/

namespace ApiJourney.Runner

open Files

/-! ## Surroundings -/

/-- What a process sees: files, and its own variables. -/
structure Surroundings where
  files : Store
  bindings : List (String × String)

/-- The variable with the path of the settings file. -/
def settingsVariable : String := "JOURNEYRUNNER_CONFIG_FILE"

/-- The variable with the log level that counts when none is set. -/
def levelVariable : String := "LOG_LEVEL"

/-- The value of a variable of the process. -/
def Surroundings.named? (s : Surroundings) (name : String) : Option String :=
  s.bindings.lookup name

def Surroundings.logLevel (s : Surroundings) : String :=
  (s.named? levelVariable).getD "INFO"

/-! ## Settings files -/

def settingsNames : List String :=
  ["journeyrunner.config.json", "journeyrunner.config.yaml", "journeyrunner.config.yml"]

/-- The folders of reversed names, from the innermost one up to the root. -/
def foldersUp : List String → List (List String)
  | [] => [[]]
  | n :: outer => (n :: outer).reverse :: foldersUp outer

/-- The nearest settings file in a folder or above it. -/
def nearestSettings (d : Disk) (folder : Path) : Except Fault (Option Path) :=
  d.firstFile? ((foldersUp folder.names.reverse).flatMap fun names =>
    settingsNames.map fun n => { folder with names := names ++ [n] })

/-- The settings file at or above a path. -/
def settingsAbove (d : Disk) (start : Path) : Except Fault (Option Path) := do
  let path ← d.resolve start
  nearestSettings d (if ← d.isFile path then path.parent else path)

/-- The settings file for what is at a path. -/
def findSettings (s : Surroundings) (start : Path) : Attempt (Option Path) :=
  match Text.given? (s.named? settingsVariable) with
  | some named => do
    let path := Path.ofText named
    if ← orFault (s.files.isFile path) then .ok (some path)
    else .error (.misconfigured (.missingSettings settingsVariable path.text))
  | none => orFault (settingsAbove s.files.toDisk start)

/-! ## Environments -/

/-- Where an environment is found: at a path, or under a name in a folder. -/
structure EnvironmentSource where
  name : Option String
  folder : Option String
  path : Option String

def environmentSuffixes : List String := [".env.json", ".env.yaml", ".env.yml"]

/-- The file of an environment with a name. -/
def environmentFile (d : Disk) (folder name : String) : Attempt Path := do
  let candidates := environmentSuffixes.map fun s => (Path.ofText folder).below (.ofText (name ++ s))
  match ← orFault (d.firstFile? candidates) with
  | some path => .ok path
  | none => .error (.misconfigured (.missingEnvironment ((candidates.map Path.text).headD "")))

/-- The file of an environment, if one is asked for. -/
def EnvironmentSource.file? (e : EnvironmentSource) (d : Disk) : Attempt (Option Path) :=
  match e.path, Text.given? e.name, e.folder with
  | some path, _, _ => .ok (some (.ofText path))
  | none, some name, some folder => (environmentFile d folder name).map some
  | _, _, _ => .ok none

/-- The layer of an environment, empty when none is asked for. It gets a name if it has none. -/
def environmentLayer (s : Store) (e : EnvironmentSource) : Attempt Entries := do
  match ← e.file? s.toDisk with
  | none => .ok []
  | some path =>
    match ← s.document path with
    | .dict es =>
      let name := (Text.given? e.name).getD "default"
      .ok (if (Entries.get? es "name").isSome then es else Entries.put es "name" (.text name))
    | _ => .error (.misconfigured .environmentNoObject)

/-! ## Settings -/

/-- Where settings come from. -/
structure Sources where
  journey : Option String
  settings : Option String
  environment : EnvironmentSource
  overrides : Entries

/-- Where the settings file is looked for: the folder of the journey or the working folder. -/
def Sources.start (s : Sources) (d : Disk) : Path :=
  match Text.given? s.journey with
  | some path => (Path.ofText path).parent
  | none => d.work

/-- The layer of the settings file. -/
def settingsLayer (s : Surroundings) (sources : Sources) : Attempt Entries := do
  let path ← match sources.settings with
    | some path => pure (some path)
    | none => (·.map Path.text) <$> findSettings s (sources.start s.files.toDisk)
  match path with
  | none => .ok []
  | some path =>
    match ← s.files.document (.ofText path) with
    | .dict es => .ok es
    | _ => .error (.misconfigured (.settingsNoObject path))

/-- An entry of a layer, if there is something to hold. -/
def layerOf (key : String) (v : Option Value) : Entries :=
  (v.map fun v => [(.text key, v)]).getD []

/-- The settings that layers give together. -/
def Settings.ofSources (s : Surroundings) (sources : Sources) : Attempt Settings := do
  let settings ← settingsLayer s sources
  let environment ← environmentLayer s.files sources.environment
  let layers := Variables.mergeAll [
    settings,
    if environment.isEmpty then [] else [(.text "environment", .dict environment)],
    layerOf "journey" (sources.journey.map fun path => .object [("path", .text path)]),
    sources.overrides]
  Settings.read s.logLevel (.dict layers)

end ApiJourney.Runner
