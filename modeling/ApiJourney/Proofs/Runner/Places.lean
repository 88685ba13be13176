-- SUMMARY: What settings are read from.
import ApiJourney.Proofs.Schema.Acceptance
import ApiJourney.Proofs.Variables.Merge
import ApiJourney.Runner.Settings

/-!
# Reading settings

Each setting that holds one value has a place among the settings as they are written: a section,
perhaps one inside of it, and a name there, or one of two names. The setting is what is read from
the value in that place, and its default where there is none.
-/

namespace ApiJourney.Runner

open Schema Value

/-! ## Fields -/

/-- A field is what is read from the value that was found for it, or its default. -/
def Reads (found : Option Value) (read : Value → Verdict α) (default : Verdict α) (a : α) : Prop :=
  match found with
  | some v => read v = .accepted a
  | none => default = .accepted a

/-- The value in a section under the first of the names that is there. -/
def found? (v : Value) (sections names : List String) : Option Value :=
  names.findSome? fun n => v.at? ((sections ++ [n]).map .text)

section

variable {read : Value → Verdict α} {default a : α} {es : Entries} {v : Value}
  {sections names : List String} {outer level : String}

theorem findSome?_congr {f g : β → Option γ} {xs : List β} (h : ∀ x ∈ xs, f x = g x) :
    xs.findSome? f = xs.findSome? g := by
  induction xs with
  | nil => rfl
  | cons x xs ih =>
    rw [List.forall_mem_cons] at h
    rw [List.findSome?_cons, List.findSome?_cons, h.1, ih h.2]

theorem lookup?_eq_found? (es : Entries) (names : List String) :
    (lookup? es names).map Prod.snd = found? (.dict es) [] names := by
  have hat : ∀ n, (Value.dict es).at? [.text n] = es.get? n := by
    intro n
    cases h : es.find? (.text n) <;> simp [at?, Entries.get?, h]
  induction names with
  | nil => rfl
  | cons n names ih =>
    rw [found?, List.findSome?_cons, List.nil_append, List.map_singleton, hat, lookup?]
    cases es.get? n with
    | none => exact ih
    | some v => rfl

theorem lookup?_singleton (es : Entries) (name : String) :
    lookup? es [name] = (es.get? name).map fun w => (name, w) := by
  rw [lookup?]
  cases es.get? name <;> rfl

theorem reads_withDefault (h : withDefault es names default read = .accepted a) :
    Reads (found? (.dict es) [] names) read (.accepted default) a := by
  rw [← lookup?_eq_found?]
  rcases withDefault_eq_accepted.1 h with ⟨k, v, hfound, hread⟩ | ⟨hnone, rfl⟩
  · rw [hfound]
    exact hread
  · rw [hnone]
    rfl

theorem Reads.map {found : Option Value} {default : Verdict α} (h : Reads found read default a)
    (f : α → β) : Reads found (fun v => f <$> read v) (f <$> default) (f a) := by
  cases found with
  | none => exact Verdict.map_eq_accepted.2 ⟨a, h, rfl⟩
  | some v => exact Verdict.map_eq_accepted.2 ⟨a, h, rfl⟩

theorem found?_dict_cons :
    found? (.dict es) (outer :: sections) names =
      (es.get? outer).bind fun w => found? w sections names := by
  have hat : ∀ n, (Value.dict es).at? (((outer :: sections) ++ [n]).map .text) =
      (es.get? outer).bind fun w => w.at? ((sections ++ [n]).map .text) := by
    intro n
    rw [List.cons_append, List.map_cons, at?, Entries.get?]
  rw [found?, funext hat]
  cases es.get? outer with
  | none => simp
  | some w => rfl

/-- A field of a section, where a section that is not there has its defaults. -/
theorem reads_section {readSection : Value → Verdict β} {whole b : β} {f : β → α}
    {default : Verdict α} (h : withDefault es [outer] whole readSection = .accepted b)
    (hdefault : default = .accepted (f whole))
    (hread : ∀ w, readSection w = .accepted b →
      Reads (found? w sections names) read default (f b)) :
    Reads (found? (.dict es) (outer :: sections) names) read default (f b) := by
  rw [found?_dict_cons]
  rcases withDefault_eq_accepted.1 h with ⟨k, w, hfound, hw⟩ | ⟨hnone, rfl⟩
  · rw [lookup?_singleton, Option.map_eq_some_iff] at hfound
    obtain ⟨w, houter, ⟨⟩⟩ := hfound
    rw [houter]
    exact hread w hw
  · rw [lookup?_singleton, Option.map_eq_none_iff] at hnone
    rw [hnone]
    exact hdefault

end

/-! ## Settings -/

/-- The settings that hold one value. -/
inductive Setting where
  | journeyPath | profilesPath | profilesSeed | environmentName | baseUrl
  | users | maxSteps | thinkTimeScale | dryRun | debug | host | port | logLevel
  deriving DecidableEq

namespace Setting

/-- The sections around a setting, from the outermost one on. -/
def sections : Setting → List String
  | journeyPath => ["journey"]
  | profilesPath | profilesSeed => ["profiles"]
  | environmentName => ["environment"]
  | baseUrl => ["environment", "target"]
  | users | maxSteps | thinkTimeScale | dryRun | debug => ["execution"]
  | host | port | logLevel => ["api"]

/-- The names that a setting is known by, that of files first. -/
def names : Setting → List String
  | journeyPath | profilesPath => ["path"]
  | profilesSeed => ["seed"]
  | environmentName => ["name"]
  | baseUrl => ["baseUrl", "base_url"]
  | users => ["virtualUsers", "virtual_users"]
  | maxSteps => ["maxSteps", "max_steps"]
  | thinkTimeScale => ["thinkTimeScale", "think_time_scale"]
  | dryRun => ["dryRun", "dry_run"]
  | debug => ["debug"]
  | host => ["host"]
  | port => ["port"]
  | logLevel => ["logLevel", "log_level"]

/-- How a value is read as a setting. -/
def read : Setting → Value → Verdict Value
  | journeyPath, v | profilesPath, v => Value.ofOption .text <$> nullable text v
  | profilesSeed, v => Value.ofOption .int <$> nullable integer v
  | environmentName, v | baseUrl, v | host, v => .text <$> text v
  | users, v | maxSteps, v => .int <$> integerAtLeast 1 v
  | thinkTimeScale, v => .float <$> numberAtLeast 0 v
  | dryRun, v | debug, v => .bool <$> boolean v
  | port, v => .int <$> integerBetween 1 65535 v
  | logLevel, v => .text <$> (text v).andThen Runner.logLevel

/-- What a setting is where no layer mentions it; the log level comes from outside. -/
def default (level : String) : Setting → Verdict Value
  | journeyPath | profilesPath | profilesSeed => .accepted .null
  | environmentName => .accepted (.text "default")
  | baseUrl => .accepted (.text defaultBaseUrl)
  | users => .accepted (.int 1)
  | maxSteps => .accepted (.int 100)
  | thinkTimeScale => .accepted (.float (Binary64.zero false))
  | dryRun | debug => .accepted (.bool false)
  | host => .accepted (.text "0.0.0.0")
  | port => .accepted (.int 8080)
  | logLevel => .text <$> Runner.logLevel level

/-- The setting among all settings. -/
def of (s : Settings) : Setting → Value
  | journeyPath => .ofOption .text s.journeyPath
  | profilesPath => .ofOption .text s.profiles.path
  | profilesSeed => .ofOption .int s.profiles.seed
  | environmentName => .text s.environment.name
  | baseUrl => .text s.environment.baseUrl
  | users => .int s.execution.users
  | maxSteps => .int s.execution.maxSteps
  | thinkTimeScale => .float s.execution.thinkTimeScale
  | dryRun => .bool s.execution.dryRun
  | debug => .bool s.execution.debug
  | host => .text s.service.host
  | port => .int s.service.port
  | logLevel => .text s.service.logLevel

/-- The paths of a setting, one for each of its names. -/
def paths (x : Setting) : List (List Value) :=
  x.names.map fun n => (x.sections ++ [n]).map .text

/-- The settings in writing have each setting at its first path. -/
theorem toValue_at? (s : Settings) (x : Setting) :
    ∀ path ∈ x.paths.head?, s.toValue.at? path = some (x.of s) := by
  intro path hpath
  cases x <;> cases hpath <;> rfl

end Setting

/-! ## Sections -/

variable {v : Value} {level : String}

theorem ProfileSettings.reads {p : ProfileSettings} (h : ProfileSettings.read v = .accepted p) :
    Reads (found? v [] ["path"]) (nullable text) (.accepted none) p.path ∧
      Reads (found? v [] ["seed"]) (nullable integer) (.accepted none) p.seed := by
  obtain ⟨es, rfl, hread⟩ := record_eq_accepted.1 h
  obtain ⟨_, seed, hfirst, hseed, rfl⟩ := Verdict.seq_eq_accepted.1 hread
  obtain ⟨path, hpath, rfl⟩ := Verdict.map_eq_accepted.1 hfirst
  exact ⟨reads_withDefault hpath, reads_withDefault hseed⟩

theorem EnvironmentSettings.reads {e : EnvironmentSettings}
    (h : EnvironmentSettings.read v = .accepted e) :
    Reads (found? v [] ["name"]) text (.accepted "default") e.name ∧
      Reads (found? v ["target"] ["baseUrl", "base_url"]) text (.accepted defaultBaseUrl)
        e.baseUrl ∧
      Reads (found? v [] ["variables"]) values (.accepted []) e.bindings := by
  obtain ⟨es, rfl, hread⟩ := record_eq_accepted.1 h
  obtain ⟨_, bindings, hsecond, hbindings, rfl⟩ := Verdict.seq_eq_accepted.1 hread
  obtain ⟨_, url, hfirst, hurl, rfl⟩ := Verdict.seq_eq_accepted.1 hsecond
  obtain ⟨name, hname, rfl⟩ := Verdict.map_eq_accepted.1 hfirst
  refine ⟨reads_withDefault hname, ?_, reads_withDefault hbindings⟩
  apply reads_section (f := id) hurl rfl
  intro w hw
  obtain ⟨es, rfl, hw⟩ := record_eq_accepted.1 hw
  exact reads_withDefault hw

theorem ExecutionSettings.reads {e : ExecutionSettings}
    (h : ExecutionSettings.read v = .accepted e) :
    Reads (found? v [] ["virtualUsers", "virtual_users"]) (integerAtLeast 1) (.accepted 1) e.users ∧
      Reads (found? v [] ["maxSteps", "max_steps"]) (integerAtLeast 1) (.accepted 100) e.maxSteps ∧
      Reads (found? v [] ["thinkTimeScale", "think_time_scale"]) (numberAtLeast 0)
        (.accepted (Binary64.zero false)) e.thinkTimeScale ∧
      Reads (found? v [] ["dryRun", "dry_run"]) boolean (.accepted false) e.dryRun ∧
      Reads (found? v [] ["debug"]) boolean (.accepted false) e.debug := by
  obtain ⟨es, rfl, hread⟩ := record_eq_accepted.1 h
  obtain ⟨_, debug, hfourth, hdebug, rfl⟩ := Verdict.seq_eq_accepted.1 hread
  obtain ⟨_, dryRun, hthird, hdryRun, rfl⟩ := Verdict.seq_eq_accepted.1 hfourth
  obtain ⟨_, scale, hsecond, hscale, rfl⟩ := Verdict.seq_eq_accepted.1 hthird
  obtain ⟨_, maxSteps, hfirst, hmaxSteps, rfl⟩ := Verdict.seq_eq_accepted.1 hsecond
  obtain ⟨users, husers, rfl⟩ := Verdict.map_eq_accepted.1 hfirst
  exact ⟨reads_withDefault husers, reads_withDefault hmaxSteps, reads_withDefault hscale,
    reads_withDefault hdryRun, reads_withDefault hdebug⟩

theorem ServiceSettings.reads {s : ServiceSettings}
    (h : ServiceSettings.read level v = .accepted s) :
    Reads (found? v [] ["host"]) text (.accepted "0.0.0.0") s.host ∧
      Reads (found? v [] ["port"]) (integerBetween 1 65535) (.accepted 8080) s.port ∧
      Reads (found? v [] ["logLevel", "log_level"]) (fun v => (text v).andThen Runner.logLevel)
        (Runner.logLevel level) s.logLevel := by
  obtain ⟨es, rfl, hread⟩ := record_eq_accepted.1 h
  obtain ⟨_, logLevel, hsecond, hlevel, rfl⟩ := Verdict.seq_eq_accepted.1 hread
  obtain ⟨_, port, hfirst, hport, rfl⟩ := Verdict.seq_eq_accepted.1 hsecond
  obtain ⟨host, hhost, rfl⟩ := Verdict.map_eq_accepted.1 hfirst
  refine ⟨reads_withDefault hhost, reads_withDefault hport, ?_⟩
  rw [← lookup?_eq_found?]
  split at hlevel
  · obtain ⟨k, w, hfound, hw⟩ := required_eq_accepted.1 hlevel
    rw [hfound]
    exact hw
  · next hnone =>
    rw [has, Bool.not_eq_true, Option.isSome_eq_false_iff, Option.isNone_iff_eq_none] at hnone
    rw [hnone]
    exact Verdict.under_eq_accepted.1 hlevel

/-! ## All settings -/

/-- A setting is what is read from the value found for it, or its default. -/
def Setting.Holds (level : String) (found : Option Value) (s : Settings) (x : Setting) : Prop :=
  Reads found x.read (x.default level) (x.of s)

/-- The sections of settings that are accepted. -/
theorem Settings.read_eq_ok {s : Settings} (h : Settings.read level v = .ok s) :
    ∃ es : Entries, v = .dict es ∧
      withDefault es ["journey"] none readJourney = .accepted s.journeyPath ∧
      withDefault es ["profiles"] .default ProfileSettings.read = .accepted s.profiles ∧
      withDefault es ["environment"] .default EnvironmentSettings.read =
        .accepted s.environment ∧
      withDefault es ["execution"] .default ExecutionSettings.read = .accepted s.execution ∧
      ServiceSettings.read level ((es.get? "api").getD (.dict [])) = .accepted s.service := by
  have haccepted : readWith level (ServiceSettings.read level (.dict [])) v = .accepted s := by
    rw [Settings.read] at h
    split at h
    · cases h
    · exact accepted_eq_ok.1 h
  obtain ⟨es, rfl, hread⟩ := record_eq_accepted.1 haccepted
  obtain ⟨_, service, hfourth, hservice, rfl⟩ := Verdict.seq_eq_accepted.1 hread
  obtain ⟨_, execution, hthird, hexecution, rfl⟩ := Verdict.seq_eq_accepted.1 hfourth
  obtain ⟨_, environment, hsecond, henvironment, rfl⟩ := Verdict.seq_eq_accepted.1 hthird
  obtain ⟨_, profiles, hfirst, hprofiles, rfl⟩ := Verdict.seq_eq_accepted.1 hsecond
  obtain ⟨journey, hjourney, rfl⟩ := Verdict.map_eq_accepted.1 hfirst
  refine ⟨es, rfl, hjourney, hprofiles, henvironment, hexecution, ?_⟩
  split at hservice
  · obtain ⟨k, w, hfound, hw⟩ := required_eq_accepted.1 hservice
    rw [lookup?_singleton, Option.map_eq_some_iff] at hfound
    obtain ⟨w, hget, ⟨⟩⟩ := hfound
    rwa [hget]
  · next hnone =>
    rw [has, lookup?_singleton, Option.isSome_map, Bool.not_eq_true, Option.isSome_eq_false_iff,
      Option.isNone_iff_eq_none] at hnone
    rwa [hnone]

/-- A section that is not there is read as one without fields. -/
theorem reads_api {es : Entries} {names : List String} {read : Value → Verdict α}
    {default : Verdict α} {a : α}
    (h : Reads (found? ((es.get? "api").getD (.dict [])) [] names) read default a) :
    Reads (found? (.dict es) ["api"] names) read default a := by
  rw [found?_dict_cons]
  cases hget : es.get? "api" with
  | none =>
    have hnone : found? (.dict []) [] names = none := List.findSome?_eq_none_iff.2 fun _ _ => rfl
    rwa [hget, Option.getD_none, hnone] at h
  | some w => rwa [hget] at h

/-- All settings are read as they are found. -/
theorem Settings.holds {s : Settings} (h : Settings.read level v = .ok s) (x : Setting) :
    x.Holds level (found? v x.sections x.names) s := by
  obtain ⟨es, rfl, hjourney, hprofiles, henvironment, hexecution, hservice⟩ :=
    Settings.read_eq_ok h
  have hjourney' : Reads (found? (.dict es) ["journey"] ["path"]) (nullable text)
      (.accepted none) s.journeyPath := by
    apply reads_section (f := id) hjourney rfl
    intro w hw
    obtain ⟨fields, rfl, hpath⟩ := record_eq_accepted.1 hw
    exact reads_withDefault hpath
  have hservice' := ServiceSettings.reads hservice
  -- Every other section is read with its own defaults; the journey's path has none.
  cases x with
  | journeyPath => exact hjourney'.map (Value.ofOption .text)
  | profilesPath =>
    have hpath := reads_section (f := (·.path)) hprofiles rfl fun _ hw =>
      (ProfileSettings.reads hw).1
    exact hpath.map (Value.ofOption .text)
  | profilesSeed =>
    have hseed := reads_section (f := (·.seed)) hprofiles rfl fun _ hw =>
      (ProfileSettings.reads hw).2
    exact hseed.map (Value.ofOption .int)
  | environmentName =>
    have hname := reads_section (f := (·.name)) henvironment rfl fun _ hw =>
      (EnvironmentSettings.reads hw).1
    exact hname.map Value.text
  | baseUrl =>
    have hurl := reads_section (f := (·.baseUrl)) henvironment rfl fun _ hw =>
      (EnvironmentSettings.reads hw).2.1
    exact hurl.map Value.text
  | users =>
    have husers := reads_section (f := (·.users)) hexecution rfl fun _ hw =>
      (ExecutionSettings.reads hw).1
    exact husers.map Value.int
  | maxSteps =>
    have hsteps := reads_section (f := (·.maxSteps)) hexecution rfl fun _ hw =>
      (ExecutionSettings.reads hw).2.1
    exact hsteps.map Value.int
  | thinkTimeScale =>
    have hscale := reads_section (f := (·.thinkTimeScale)) hexecution rfl fun _ hw =>
      (ExecutionSettings.reads hw).2.2.1
    exact hscale.map Value.float
  | dryRun =>
    have hdry := reads_section (f := (·.dryRun)) hexecution rfl fun _ hw =>
      (ExecutionSettings.reads hw).2.2.2.1
    exact hdry.map Value.bool
  | debug =>
    have hdebug := reads_section (f := (·.debug)) hexecution rfl fun _ hw =>
      (ExecutionSettings.reads hw).2.2.2.2
    exact hdebug.map Value.bool
  | host => exact (reads_api hservice'.1).map Value.text
  | port => exact (reads_api hservice'.2.1).map Value.int
  | logLevel => exact (reads_api hservice'.2.2).map Value.text

/-! ## Settings in files -/

/-- The value that a settings file gives to a setting. -/
def Setting.given? (x : Setting) (file : Entries) : Option Value :=
  x.paths.findSome? (Value.dict file).leafAt?

/-- No object is read as a setting. -/
theorem Setting.not_object {x : Setting} {v a : Value} (h : x.read v = .accepted a) :
    v.isObject = false := by
  cases hv : v.isObject with
  | false => rfl
  | true =>
    obtain ⟨es, rfl⟩ := isObject_iff.1 hv
    exfalso
    revert h
    cases x <;> simp [Setting.read, nullable, Value.isNull, Schema.text, integer, number,
      integerAtLeast, integerBetween, numberAtLeast, boolean, Verdict.map_eq_accepted,
      Verdict.andThen_eq_accepted]

theorem reads_leafAt? {read : Value → Verdict α} {default : Verdict α} {a : α}
    {paths : List (List Value)} (hread : ∀ w, read w = .accepted a → w.isObject = false)
    (h : Reads (paths.findSome? v.at?) read default a) :
    Reads (paths.findSome? v.leafAt?) read default a := by
  induction paths with
  | nil => exact h
  | cons path paths ih =>
    rw [List.findSome?_cons] at h ⊢
    cases hat : v.at? path with
    | none =>
      rw [hat] at h
      rw [leafAt?, hat]
      exact ih h
    | some w =>
      rw [hat] at h
      rw [leafAt?_eq_some.2 ⟨hat, hread w h⟩]
      exact h

theorem Setting.Holds.of_leaves {s : Settings} {x : Setting}
    (h : x.Holds level (found? v x.sections x.names) s) :
    x.Holds level (x.paths.findSome? v.leafAt?) s := by
  apply reads_leafAt? fun w hw => Setting.not_object hw
  rwa [Setting.paths, List.findSome?_map]

end ApiJourney.Runner
