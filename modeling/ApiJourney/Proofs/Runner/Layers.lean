-- SUMMARY: Which layer gives a variable of a user, or a setting, its value.
import ApiJourney.Files.Tree
import ApiJourney.Proofs.Json.Reader
import ApiJourney.Proofs.Schema.Acceptance
import ApiJourney.Proofs.Variables.Merge
import ApiJourney.Proofs.Yaml.Document
import ApiJourney.Runner.Layers
import ApiJourney.Variables.Layers

/-!
# Precedence of layers

The variables of a user and the settings of a runner are merged from layers. At every path
the last layer that has something to say there is the one that counts.
-/

namespace ApiJourney

open Value

/-! ## Documents -/

namespace Files

/-- Documents in YAML hold no key twice in an object. -/
def Store.Keyed (s : Store) : Prop :=
  ∀ cs v, s.yaml cs = .ok v → v.isKeyed = true

theorem Tree.store_keyed (t : Files.Tree) : t.store.Keyed :=
  fun cs _ h => (Yaml.read_keyed cs).of_ok h

namespace Store

variable {s : Store} {path : Path} {f : Fault}

theorem parse_keyed (hs : s.Keyed) (format : Format) (cs : List Char) :
    Ensures (s.parse format cs) (fun v => v.isKeyed = true) fun _ => True := by
  cases format with
  | json => exact (Json.read_ensures cs).imp isKeyed_of_isWellKeyed fun _ _ => trivial
  | yaml =>
    rw [parse]
    cases hread : s.yaml cs with
    | ok v => exact hs cs v hread
    | error f => trivial

/-- The documents in files hold no key twice in an object. -/
theorem document_keyed (hs : s.Keyed) (path : Path) :
    Ensures (s.document path) (fun v => v.isKeyed = true) fun _ => True := by
  refine .andThen fun found => ?_
  split_ifs
  · refine .andThen fun bytes => .andThen fun cs => ?_
    unfold documentOf
    dsimp only
    split
    · trivial
    · next format _ =>
      have h := parse_keyed hs format cs
      split
      · next v hv => exact h.of_ok hv
      · trivial
      · trivial
  · trivial

/-- What keeps a document from being had without being told: the disk says nothing about its
    path or does not hand out its bytes, these are no text, or its reader gives the text up for
    more than that it is malformed. -/
inductive Fails (s : Store) (path : Path) : Fault → Prop where
  | unanswered {f : Fault} : s.isFile path = .error f → Fails s path f
  | closed {f : Fault} : s.isFile path = .ok true → s.read path = .error f → Fails s path f
  | undecodable {bytes : List UInt8} : s.isFile path = .ok true → s.read path = .ok bytes →
      Text.Utf8.decode? bytes = none → Fails s path .undecodable
  | unread {bytes : List UInt8} {cs : List Char} {format : Format} {f : Fault} :
      s.isFile path = .ok true → s.read path = .ok bytes → textOf bytes = .ok cs →
      Format.ofSuffix? (Text.lowered path.suffix) = some format → s.parse format cs = .error f →
      f ≠ .malformed → Fails s path f

/-- The document at the path of a file is that of its text. -/
theorem document_of_read {bytes : List UInt8} (hfound : s.isFile path = .ok true)
    (hread : s.read path = .ok bytes) :
    s.document path = orFault (textOf bytes) >>= s.documentOf path := by
  rw [document, hfound, hread]
  rfl

end Store

end Files

/-! ## Settings -/

namespace Runner

open Files

theorem environmentLayer_keyed {s : Store} (hs : s.Keyed) (e : EnvironmentSource) :
    Ensures (environmentLayer s e) (fun es => keyedEntries es = true) fun _ => True := by
  refine (Ensures.vacuous (e.file? s.toDisk)).bind fun file _ => ?_
  split
  · rfl
  · next path =>
    refine (Store.document_keyed hs path).bind fun v hv => ?_
    split
    · dsimp only
      split
      · exact hv
      · exact keyedEntries_insert hv _ rfl
    · trivial

theorem settingsLayer_keyed {s : Surroundings} (hs : s.files.Keyed) (sources : Sources) :
    Ensures (settingsLayer s sources) (fun es => keyedEntries es = true) fun _ => True := by
  unfold settingsLayer
  dsimp only
  split
  -- a file that is not named is looked for, and may not be there
  case' h_2 =>
    refine .andThen fun path => ?_
    split
    · rfl
  all_goals
    refine (Store.document_keyed hs _).bind fun v hv => ?_
    split
    · exact hv
    · trivial

/-- The layers that settings are merged from, given those of files. -/
def Sources.layers (sources : Sources) (settings environment : Entries) : List Entries :=
  [settings,
    if environment.isEmpty then [] else [(.text "environment", .dict environment)],
    layerOf "journey" (sources.journey.map fun path => .object [("path", .text path)]),
    sources.overrides]

theorem ofSources_eq_read {s : Surroundings} {sources : Sources} {settings environment : Entries}
    (hsettings : settingsLayer s sources = .ok settings)
    (henvironment : environmentLayer s.files sources.environment = .ok environment) :
    Settings.ofSources s sources =
      Settings.read s.logLevel
        (.dict (Variables.mergeAll (sources.layers settings environment))) := by
  unfold Settings.ofSources
  rw [hsettings, henvironment]
  rfl

theorem layers_keyed {sources : Sources} {settings environment : Entries}
    (hoverrides : keyedEntries sources.overrides = true) (hsettings : keyedEntries settings = true)
    (henvironment : keyedEntries environment = true) :
    ∀ layer ∈ sources.layers settings environment, keyedEntries layer = true := by
  have hjourney : keyedEntries (layerOf "journey"
      (sources.journey.map fun path => .object [("path", .text path)])) = true := by
    cases sources.journey <;> rfl
  have hnamed : keyedEntries (if environment.isEmpty then []
      else [(.text "environment", .dict environment)]) = true := by
    split
    · rfl
    · exact keyedEntries_cons.2 ⟨rfl, henvironment, rfl⟩
  exact List.forall_mem_cons.2 ⟨hsettings, List.forall_mem_cons.2 ⟨hnamed,
    List.forall_mem_cons.2 ⟨hjourney, List.forall_mem_singleton.2 hoverrides⟩⟩⟩

end Runner

/-! ## Files of settings -/

namespace Runner

open Files

variable {s : Surroundings} {sources : Sources} {f : Fault}

/-- The settings file that is named or found, if there is one. -/
def settingsFile (s : Surroundings) (sources : Sources) : Attempt (Option String) :=
  match sources.settings with
  | some path => .ok (some path)
  | none => (findSettings s (sources.start s.files.toDisk)).map (·.map Path.text)

theorem settingsLayer_eq (s : Surroundings) (sources : Sources) :
    settingsLayer s sources = (do
      match ← settingsFile s sources with
      | none => .ok []
      | some path =>
        match ← s.files.document (.ofText path) with
        | .dict es => .ok es
        | _ => .error (.misconfigured (.settingsNoObject path))) := by
  unfold settingsLayer settingsFile
  cases sources.settings <;> rfl

/-- The documents that settings are made from. -/
inductive Settles (s : Surroundings) (sources : Sources) : Path → Prop where
  | settings {path : String} : settingsFile s sources = .ok (some path) →
      Settles s sources (.ofText path)
  | environment {path : Path} : sources.environment.file? s.files.toDisk = .ok (some path) →
      Settles s sources path

/-- The paths where a settings file is looked for from a folder on. -/
def settingsPlaces (folder : Path) : List Path :=
  (foldersUp folder.names.reverse).flatMap fun names =>
    settingsNames.map fun n => { folder with names := names ++ [n] }

/-- The paths where an environment with a name is looked for. -/
def environmentPlaces (folder name : String) : List Path :=
  environmentSuffixes.map fun s => (Path.ofText folder).below (.ofText (name ++ s))

/-- Settings that are read have found their files and read all of them. -/
theorem found_of_ofSources {settings : Settings}
    (h : Settings.ofSources s sources = .ok settings) :
    (∃ file, settingsFile s sources = .ok file) ∧
      (∃ file, sources.environment.file? s.files.toDisk = .ok file) ∧
      ∀ path, Settles s sources path → ∃ v, s.files.document path = .ok v := by
  obtain ⟨entries, hsettings, h⟩ := bind_eq_ok.1 h
  obtain ⟨environment, henvironment, -⟩ := bind_eq_ok.1 h
  rw [settingsLayer_eq] at hsettings
  obtain ⟨file, hfile, hsettings⟩ := bind_eq_ok.1 hsettings
  obtain ⟨other, hother, henvironment⟩ := bind_eq_ok.1 henvironment
  refine ⟨⟨file, hfile⟩, ⟨other, hother⟩, fun path hpath => ?_⟩
  cases hpath with
  | settings hnamed =>
    cases hfile.symm.trans hnamed
    obtain ⟨v, hv, -⟩ := bind_eq_ok.1 hsettings
    exact ⟨v, hv⟩
  | environment hnamed =>
    cases hother.symm.trans hnamed
    obtain ⟨v, hv, -⟩ := bind_eq_ok.1 henvironment
    exact ⟨v, hv⟩

end Runner

/-! ## Precedence -/

namespace Variables

open Runner

/-- The layers of a user's variables: those of the journey, of the environment, of the profile,
    the generated values, and the user with the profile. -/
def layersOf (user : Option UserContext) (journey environment : Entries) : List Entries :=
  [journey, [(.text "env", .dict environment)]] ++ match user with
    | none => []
    | some u =>
      [u.bindings, u.generated,
        [(.text "user", .dict u.data), (.text "profile", .text u.profile)]]

/-- The parts of a user's context hold no key twice. -/
structure KeyedUser (u : UserContext) : Prop where
  data : keyedEntries u.data = true
  bindings : keyedEntries u.bindings = true
  generated : keyedEntries u.generated = true

theorem layersOf_keyed {user : Option UserContext} {journey environment : Entries}
    (huser : ∀ u ∈ user, KeyedUser u) (hjourney : keyedEntries journey = true)
    (henvironment : keyedEntries environment = true) :
    ∀ layer ∈ layersOf user journey environment, keyedEntries layer = true := by
  have henv : keyedEntries [(.text "env", .dict environment)] = true :=
    keyedEntries_cons.2 ⟨rfl, henvironment, rfl⟩
  cases user with
  | none => simp [layersOf, hjourney, henv]
  | some u =>
    obtain ⟨hdata, hbindings, hgenerated⟩ := huser u rfl
    have hnamed : keyedEntries [(.text "user", .dict u.data), (.text "profile", .text u.profile)]
        = true :=
      keyedEntries_cons.2 ⟨rfl, hdata, rfl⟩
    simp [layersOf, hjourney, henv, hbindings, hgenerated, hnamed]

/-- In layers that are merged the last one that touches a path says what stands there; so it is
    with the variables of a user and with the settings of a runner, whose files hold no key
    twice where the reader of YAML sees to that. -/
theorem mergedLayers_lastWriterWins :
    (∀ layers : List Entries, (∀ layer ∈ layers, keyedEntries layer = true) →
      LastWriterWins (mergeAll layers) layers) ∧
    (∀ (user : Option UserContext) (journey environment : Entries),
      (∀ u ∈ user, KeyedUser u) → keyedEntries journey = true → keyedEntries environment = true →
      LastWriterWins (ofUser user journey environment) (layersOf user journey environment)) ∧
    (∀ (s : Surroundings) (sources : Sources) (settings environment : Entries),
      s.files.Keyed → keyedEntries sources.overrides = true →
      settingsLayer s sources = .ok settings →
      Runner.environmentLayer s.files sources.environment = .ok environment →
      let layers := sources.layers settings environment
      Settings.ofSources s sources = Settings.read s.logLevel (.dict (mergeAll layers)) ∧
        LastWriterWins (mergeAll layers) layers) := by
  refine ⟨fun layers h => mergeAll_lastWriterWins h, ?_, ?_⟩
  · intro user journey environment huser hjourney henvironment
    have hmerged :
        ofUser user journey environment = mergeAll (layersOf user journey environment) := by
      cases user <;> rfl
    rw [hmerged]
    exact mergeAll_lastWriterWins (layersOf_keyed huser hjourney henvironment)
  · intro s sources settings environment hfiles hoverrides hsettings henvironment
    refine ⟨ofSources_eq_read hsettings henvironment, mergeAll_lastWriterWins ?_⟩
    exact layers_keyed hoverrides ((settingsLayer_keyed hfiles sources).of_ok hsettings)
      ((environmentLayer_keyed hfiles _).of_ok henvironment)

/-- A value in the place of an object, and an object in its place again. -/
def replacedLayers : List Entries :=
  [[(.text "a", .dict [(.text "b", .int 1), (.text "c", .int 2)])],
   [(.text "a", .int 5)],
   [(.text "a", .dict [(.text "b", .int 3)])]]

/-- A user whose generated value stands over that of the profile. -/
def drawnUser : UserContext :=
  ⟨"buyer", [(.text "name", .text "Ada")], [(.text "token", .int 1)], [(.text "token", .int 2)]⟩

/-- A process in an empty folder. -/
def emptySurroundings : Surroundings :=
  ⟨Files.Tree.store ⟨⟨"/", ["work"]⟩, [], []⟩, []⟩

/-- Sources of nothing but overrides. -/
def overridesOnly : Sources :=
  ⟨none, none, ⟨none, none, none⟩, [(.text "execution", .dict [(.text "maxSteps", .int 7)])]⟩

theorem replacedLayers_lastWriterWins :
    (∀ layer ∈ replacedLayers, keyedEntries layer = true) ∧
    (Value.dict (mergeAll replacedLayers)).at? [.text "a", .text "b"] = some (.int 3) ∧
    (Value.dict (ofUser (some drawnUser) [(.text "token", .int 0)] [])).at? [.text "token"]
      = some (.int 2) ∧
    Settings.ofSources emptySurroundings overridesOnly =
      Settings.read "INFO" (.dict (mergeAll (overridesOnly.layers [] []))) ∧
    (Value.dict (mergeAll (overridesOnly.layers [] []))).at? [.text "execution", .text "maxSteps"]
      = some (.int 7) := by
  have hkeyed : ∀ layer ∈ replacedLayers, keyedEntries layer = true := by decide
  have huser : ∀ u ∈ some drawnUser, KeyedUser u := by
    rintro u ⟨rfl⟩
    exact ⟨rfl, rfl, rfl⟩
  have hnowhere : settingsLayer emptySurroundings overridesOnly = .ok [] := by
    with_unfolding_all rfl
  have hsettings :=
    mergedLayers_lastWriterWins.2.2 emptySurroundings overridesOnly [] [] (Files.Tree.store_keyed _)
      rfl hnowhere rfl
  refine ⟨hkeyed, ?_, ?_, hsettings.1, ?_⟩
  · exact (mergedLayers_lastWriterWins.1 replacedLayers hkeyed _ _ rfl).2 ⟨_, rfl, rfl⟩
  · exact (mergedLayers_lastWriterWins.2.1 (some drawnUser) [(.text "token", .int 0)] [] huser
      rfl rfl [.text "token"] (.int 2) rfl).2 ⟨[(.text "token", .int 2)], rfl, rfl⟩
  · exact (hsettings.2 _ _ rfl).2 ⟨_, rfl, rfl⟩

end Variables

end ApiJourney
