-- SUMMARY: The files that a command looks at.
import ApiJourney.Cli.Command
import ApiJourney.Profile.Distributor

/-!
# Inputs of commands

Which files a command looks at is known from its arguments, from the settings, and from the
profiles; each of these says where the next ones are.
-/

namespace ApiJourney.Cli

open Files Runner

/-- Where the settings file may be. -/
def settingsPlaces (s : Surroundings) (sources : Sources) : List Path :=
  match sources.settings.or (Text.given? (s.named? settingsVariable)) with
  | some path => [.ofText path]
  | none =>
    let start := s.files.work.resolve (sources.start s.files.toDisk)
    start :: (foldersUp start.names.reverse).flatMap fun names =>
      settingsNames.map fun n => { start with names := names ++ [n] }

/-- Where the file of the environment may be. -/
def environmentPlaces (e : EnvironmentSource) : List Path :=
  match e.path, e.name, e.folder with
  | some path, _, _ => [.ofText path]
  | none, some name, some folder =>
    environmentSuffixes.map fun s => (Path.ofText folder).below (.ofText (name ++ s))
  | _, _, _ => []

/-- The path of the profiles in the settings. -/
def settledProfiles (s : Surroundings) (a : Arguments) : Option String :=
  match Settings.ofSources s a.sources with
  | .ok settings => settings.profiles.path
  | .error _ => none

/-- The path of the profiles that a command is about. -/
def profilesPath (s : Surroundings) (a : Arguments) : Option Path :=
  match a.command with
  | .sample x => some (.ofText x.profiles)
  | .simulate x =>
    ((Text.given? x.profiles).or (Text.given? (settledProfiles s a))).map Path.ofText
  | _ => none

/-- The data sources of the profiles at a path. -/
def dataPlaces (s : Store) (path : Path) : List Path :=
  match ProfileConfig.ofFile s path with
  | .error _ => []
  | .ok c =>
    (c.profiles.filterMap Profile.dataSource).map fun source =>
      (s.work.resolve path).parent.below (.ofText source)

/-- A path worked out, and as it is. -/
def bothWays (d : Disk) (path : Path) : List Path :=
  [d.work.resolve path, path]

/-- All places that a command looks at, as far as they are known. -/
def inputs (s : Surroundings) (a : Arguments) : List Path :=
  let profiles := (profilesPath s a).toList
  let documents := (a.command.journey?.map Path.ofText).toList ++ profiles
  settingsPlaces s a.sources ++ environmentPlaces a.environment
    ++ documents.flatMap (bothWays s.files.toDisk) ++ profiles.flatMap (dataPlaces s.files)

end ApiJourney.Cli
