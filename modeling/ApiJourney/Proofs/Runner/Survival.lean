-- SUMMARY: Settings that no higher layer mentions.
import ApiJourney.Proofs.Json.Written
import ApiJourney.Proofs.Runner.Layers
import ApiJourney.Proofs.Runner.Places
import ApiJourney.Proofs.Text.Parts
import ApiJourney.Proofs.Value.Latest

/-!
# Settings that survive

A setting is what the settings file says about it, unless a higher layer mentions its place. The
only entry of a layer that nobody has written is the name of an environment.
-/

namespace ApiJourney.Runner

open Schema Value Variables Files Text

/-! ## Environments as they are written -/

/-- The entries of an environment as its file has them, none when none is asked for. -/
def EnvironmentSource.written (e : EnvironmentSource) (s : Store) : Attempt Entries := do
  match ← e.file? s.toDisk with
  | none => .ok []
  | some path =>
    match ← s.document path with
    | .dict es => .ok es
    | _ => .error (.misconfigured .environmentNoObject)

/-- The name that an environment gets when its file has none. -/
def EnvironmentSource.givenName (e : EnvironmentSource) : String :=
  (Text.given? e.name).getD "default"

/-- The entries with a name. -/
def EnvironmentSource.named (e : EnvironmentSource) (written : Entries) : Entries :=
  if (written.get? "name").isSome then written else written.put "name" (.text e.givenName)

/-- The layer of an environment is what is written, and a name. -/
theorem environmentLayer_eq_ok {s : Store} {e : EnvironmentSource} {environment : Entries}
    (h : environmentLayer s e = .ok environment) :
    ∃ written, e.written s = .ok written ∧
      ((e.file? s.toDisk = .ok none ∧ written = [] ∧ environment = []) ∨
        (e.file? s.toDisk ≠ .ok none ∧ environment = e.named written)) := by
  rw [environmentLayer] at h
  rw [EnvironmentSource.written]
  obtain ⟨file, hfile, hlayer⟩ := bind_eq_ok.1 h
  rw [hfile]
  cases file with
  | none =>
    cases hlayer
    exact ⟨[], rfl, .inl ⟨rfl, rfl, rfl⟩⟩
  | some path =>
    obtain ⟨v, hdocument, hnamed⟩ := bind_eq_ok.1 hlayer
    cases v with
    | dict es =>
      cases hnamed
      refine ⟨es, ?_, .inr ⟨nofun, rfl⟩⟩
      exact bind_eq_ok.2 ⟨_, rfl, bind_eq_ok.2 ⟨_, hdocument, rfl⟩⟩
    | _ => cases hnamed

/-! ## Layers above the settings file -/

/-- No layer above the settings file mentions a path: not the environment, nor the path of the
    journey, nor the overrides. -/
def Unmentioned (sources : Sources) (environment : Entries) (path : List Value) : Prop :=
  ∀ layer ∈ sources.layers [] environment, (Value.dict layer).touches path = false

variable {s : Surroundings} {sources : Sources} {file written : Entries}

/-- At a path that no higher layer mentions stands what the settings file has there. -/
theorem leafAt?_layers {environment : Entries} {path : List Value}
    (hkeyed : ∀ layer ∈ sources.layers file environment, keyedEntries layer = true)
    (h : Unmentioned sources environment path) :
    (Value.dict (mergeAll (sources.layers file environment))).leafAt? path =
      (Value.dict file).leafAt? path := by
  exact leafAt?_mergeAll_of_untouched hkeyed fun layer hlayer =>
    h layer (List.mem_cons_of_mem _ hlayer)

/-- The entries of an environment, as the settings have them. -/
def environmentEntries (es : Entries) : Entries :=
  if es.isEmpty then [] else [(.text "environment", .dict es)]

theorem layers_eq (sources : Sources) (file environment : Entries) :
    sources.layers file environment =
      file :: environmentEntries environment :: (sources.layers [] []).drop 2 := rfl

theorem touches_environmentEntries (es : Entries) (outer n : String) (rest : List Value) :
    (Value.dict (environmentEntries es)).touches (.text outer :: .text n :: rest) =
      ("environment" == outer && (es.get? n).any fun w => w.touches rest) := by
  have hinner : (Value.dict es).touches (.text n :: rest) =
      (es.get? n).any fun w => w.touches rest := touches_dict_cons es _ rest
  rw [touches_dict_cons, environmentEntries]
  split
  · next hempty =>
    rw [List.isEmpty_iff.1 hempty]
    cases "environment" == outer <;> rfl
  · rw [Entries.find?_cons, sameKey_text]
    cases "environment" == outer with
    | true => rw [if_pos rfl, Option.any_some, hinner, Bool.true_and]
    | false => rfl

theorem EnvironmentSource.get?_named (e : EnvironmentSource) {n : String} (hn : n ≠ "name") :
    (e.named written).get? n = written.get? n := by
  rw [named]
  split
  · rfl
  · rw [Entries.get?_put, if_neg (Ne.symm hn)]

/-- An environment that mentions no name is named as it is asked for. -/
theorem EnvironmentSource.get?_named_name (e : EnvironmentSource) {name : String}
    (hname : Text.given? e.name = some name) (hwritten : written.get? "name" = none) :
    (e.named written).get? "name" = some (.text name) := by
  rw [named, hwritten, if_neg nofun, Entries.get?_put, if_pos rfl, givenName, hname]
  rfl

theorem unmentioned_iff {environment : Entries} {outer n : String} {rest : List Value} :
    Unmentioned sources environment (.text outer :: .text n :: rest) ↔
      (outer = "environment" → (environment.get? n).any (fun w => w.touches rest) = false) ∧
      ∀ layer ∈ sources.layers [] [], (Value.dict layer).touches (.text outer :: .text n :: rest) =
        false := by
  have hempty : (Value.dict []).touches (.text outer :: .text n :: rest) = false := by
    rw [touches_dict_cons]
    rfl
  rw [Unmentioned, layers_eq, layers_eq _ [] []]
  simp only [List.forall_mem_cons, hempty, touches_environmentEntries]
  have hnone : Entries.get? [] n = none := rfl
  rw [hnone]
  cases houter : "environment" == outer
  · have hne : outer ≠ "environment" := by
      rintro rfl
      simp at houter
    simp [hne]
  · rw [beq_iff_eq] at houter
    simp [houter]

/-- The name of an environment touches no other path. -/
theorem Unmentioned.named {outer n : String} {rest : List Value}
    (hname : outer = "environment" → n ≠ "name")
    (h : Unmentioned sources written (.text outer :: .text n :: rest)) :
    Unmentioned sources (sources.environment.named written) (.text outer :: .text n :: rest) := by
  rw [unmentioned_iff] at h ⊢
  refine ⟨fun houter => ?_, h.2⟩
  rw [EnvironmentSource.get?_named _ (hname houter)]
  exact h.1 houter

/-- The layers above the settings file, but for the environment, touch no path that is not
    mentioned. -/
theorem Unmentioned.later {environment : Entries} {outer n : String} {rest : List Value}
    (h : Unmentioned sources environment (.text outer :: .text n :: rest)) :
    ∀ layer ∈ (sources.layers [] []).drop 2,
      (Value.dict layer).touches (.text outer :: .text n :: rest) = false :=
  fun layer hlayer => (unmentioned_iff.1 h).2 layer (List.mem_of_mem_drop hlayer)

/-! ## Variables of the environment -/

/-- Where the variables of the environment are. -/
def variablesPath : List Value := [.text "environment", .text "variables"]

/-- Entries under texts, no text twice. -/
structure UnderTexts (es : Entries) : Prop where
  distinct : es.Distinct
  texts : ∀ e ∈ es, e.1.IsText

theorem isText_merge {target es : Entries} (htarget : ∀ e ∈ target, e.1.IsText)
    (hes : ∀ e ∈ es, e.1.IsText) : ∀ e ∈ merge target es, e.1.IsText := by
  induction es generalizing target with
  | nil => rwa [merge]
  | cons e es ih =>
    rw [List.forall_mem_cons] at hes
    rw [merge]
    exact ih (Entries.isText_insert.2 ⟨htarget, hes.1⟩) hes.2

theorem UnderTexts.merge {target es : Entries} (htarget : UnderTexts target)
    (hes : UnderTexts es) : UnderTexts (Variables.merge target es) :=
  ⟨distinct_merge htarget.distinct es, isText_merge htarget.texts hes.texts⟩

theorem nodup_of_distinct {fields : List (String × Value)}
    (h : Entries.Distinct (fields.map fun (k, v) => (.text k, v))) :
    (fields.map Prod.fst).Nodup := by
  induction fields with
  | nil => exact List.nodup_nil
  | cons field fields ih =>
    obtain ⟨hfresh, hfields⟩ := h
    rw [List.map_cons, List.nodup_cons]
    refine ⟨fun hmem => ?_, ih hfields⟩
    obtain ⟨other, hother, hname⟩ := List.mem_map.1 hmem
    have hkeys := Entries.find?_eq_none.1 hfresh _ (List.mem_map_of_mem hother)
    simp [hname] at hkeys

/-- Values under texts are accepted as they are. -/
theorem UnderTexts.values_eq {es bindings : Entries} (h : UnderTexts es)
    (hread : values (.dict es) = .accepted bindings) : bindings = es := by
  obtain ⟨fields, hfields, rfl⟩ := Verdict.map_eq_accepted.1 hread
  obtain ⟨found, hfound, rfl⟩ := Verdict.map_eq_accepted.1 hfields
  have hes : es = found.map fun (k, v) => (.text k, v) := by
    have hentries := entries_eq_accepted.1 hfound
    have htexts := h.texts
    clear hread hfields hfound h
    induction hentries with
    | nil => rfl
    | @cons e y es found he _ ih =>
      rw [List.forall_mem_cons] at htexts
      obtain ⟨key, v⟩ := e
      obtain ⟨t, rfl⟩ : key.IsText := htexts.1
      obtain ⟨hkey, hv⟩ := he
      cases hkey
      cases hv
      rw [List.map_cons, ← ih htexts.2]
  have hnodup : (found.map Prod.fst).Nodup := nodup_of_distinct (hes ▸ h.distinct)
  rw [lastOfEach_of_nodup hnodup, hes]

/-- The variables of accepted settings are those that are written, path by path. -/
theorem leafAt?_bindings {level : String} {v : Value} {result : Settings}
    (hread : Settings.read level v = .ok result)
    (htexts : ∀ es, v.at? variablesPath = some (.dict es) → UnderTexts es) (path : List Value) :
    (Value.dict result.environment.bindings).leafAt? path = v.leafAt? (variablesPath ++ path) := by
  obtain ⟨es, rfl, -, -, henvironment, -⟩ := Settings.read_eq_ok hread
  have hbindings := reads_section (f := (·.bindings)) henvironment rfl fun _ hw =>
    (EnvironmentSettings.reads hw).2.2
  have hfound : found? (.dict es) ["environment"] ["variables"] =
      (Value.dict es).at? variablesPath := by
    simp [found?, variablesPath]
  rw [hfound] at hbindings
  rw [leafAt?_append]
  cases hat : (Value.dict es).at? variablesPath with
  | none =>
    rw [hat] at hbindings
    have hempty : [] = result.environment.bindings := Verdict.accepted_inj.1 hbindings
    rw [← hempty]
    cases path with
    | nil => exact leafAt?_dict_nil []
    | cons k path => exact leafAt?_dict_cons [] k path
  | some w =>
    rw [hat] at hbindings
    cases w with
    | dict fields =>
      rw [(htexts fields hat).values_eq hbindings]
      rfl
    | _ => cases hbindings

/-! ## Survival -/

/-- A layer has its variables of the environment under texts. -/
def TextVariables (layer : Entries) : Prop :=
  ∀ es, (Value.dict layer).at? variablesPath = some (.dict es) → ∀ e ∈ es, e.1.IsText

theorem mergeAll_underTexts {layers : List Entries}
    (hkeyed : ∀ layer ∈ layers, keyedEntries layer = true)
    (htexts : ∀ layer ∈ layers, TextVariables layer) :
    ∀ es, (Value.dict (mergeAll layers)).at? variablesPath = some (.dict es) → UnderTexts es := by
  have hnil : UnderTexts [] := ⟨trivial, nofun⟩
  apply object_mergeAll hnil UnderTexts.merge hkeyed
  intro layer hlayer es hes
  have hes' : keyedEntries es = true := isKeyed_of_at? (v := .dict layer) (hkeyed layer hlayer) hes
  exact ⟨distinct_of_keyed hes', htexts layer hlayer es hes⟩

/-- The path of a setting, and that the name of the environment is the only one there. -/
theorem Setting.path_eq {x : Setting} {path : List Value} (hpath : path ∈ x.paths) :
    ∃ outer n rest, path = .text outer :: .text n :: rest ∧
      (x ≠ .environmentName → outer = "environment" → n ≠ "name") := by
  cases x <;> simp only [Setting.paths, Setting.sections, Setting.names, List.map_cons,
    List.map_nil, List.mem_cons, List.not_mem_nil, or_false] at hpath
  all_goals
    rcases hpath with rfl | rfl <;> exact ⟨_, _, _, rfl, by decide⟩

/-- The name that an environment is asked for under, where its file has none. -/
theorem leafAt?_name {environment : Entries} {name : String}
    (hkeyed : ∀ layer ∈ sources.layers file environment, keyedEntries layer = true)
    (hname : environment.get? "name" = some (.text name))
    (h : Unmentioned sources written [.text "environment", .text "name"]) :
    (Value.dict (mergeAll (sources.layers file environment))).leafAt?
      [.text "environment", .text "name"] = some (.text name) := by
  have hlayers : sources.layers file environment =
      [file] ++ environmentEntries environment :: (sources.layers [] []).drop 2 := layers_eq _ _ _
  have htouches : (Value.dict (environmentEntries environment)).touches
      [.text "environment", .text "name"] = true := by
    rw [touches_environmentEntries, hname]
    rfl
  rw [hlayers] at hkeyed ⊢
  rw [leafAt?_mergeAll_of_last hkeyed htouches h.later, environmentEntries]
  have hnonempty : environment.isEmpty = false := by
    cases environment with
    | nil => cases hname
    | cons e es => rfl
  rw [hnonempty, if_neg nofun]
  have hinner : (Value.dict environment).leafAt? [.text "name"] = some (.text name) := by
    rw [leafAt?_dict_cons, show environment.find? (.text "name") = some (.text name) from hname]
    rfl
  rw [leafAt?_dict_cons, Entries.find?_cons, sameKey_text, if_pos (by decide)]
  exact hinner

/-- The variables of a layer with an environment are those of the environment. -/
theorem at?_environmentEntries (es : Entries) :
    (Value.dict (environmentEntries es)).at? variablesPath = es.get? "variables" := by
  rw [environmentEntries]
  split
  · next hempty =>
    rw [List.isEmpty_iff.1 hempty]
    rfl
  · have hinner : (Value.dict es).at? [.text "variables"] = es.get? "variables" := by
      rw [at?, Entries.get?]
      cases es.find? (.text "variables") <;> rfl
    rw [variablesPath, at?, Entries.find?_cons, sameKey_text, if_pos (by decide)]
    exact hinner

/-- What is left of a settings file under the layers above it. A setting that none of these
    mentions is what the file says, read as its kind of value, or its default; so are the
    variables of the environment. The name of the environment is so where no environment is asked
    for; an environment that is asked for under a name brings the name along. -/
theorem ofSources_survives {s : Surroundings} {sources : Sources} {result : Settings}
    (hfiles : s.files.Keyed) (hoverrides : keyedEntries sources.overrides = true)
    (hresult : Settings.ofSources s sources = .ok result) :
    ∃ file written, settingsLayer s sources = .ok file ∧
      sources.environment.written s.files = .ok written ∧
      (∀ x : Setting, (∀ path ∈ x.paths, Unmentioned sources written path) →
        x ≠ .environmentName ∨ sources.environment.file? s.files.toDisk = .ok none →
        x.Holds s.logLevel (x.given? file) result) ∧
      (∀ name, Text.given? sources.environment.name = some name →
        sources.environment.file? s.files.toDisk ≠ .ok none →
        (∀ path ∈ Setting.environmentName.paths, Unmentioned sources written path) →
        result.environment.name = name) ∧
      ((∀ layer ∈ sources.layers file written, TextVariables layer) →
        ∀ path, Unmentioned sources written (variablesPath ++ path) →
          (Value.dict result.environment.bindings).leafAt? path =
            (Value.dict file).leafAt? (variablesPath ++ path)) := by
  obtain ⟨file, hfile, hrest⟩ := bind_eq_ok.1 hresult
  obtain ⟨environment, henvironment, hread⟩ := bind_eq_ok.1 hrest
  obtain ⟨written, hwritten, hlayer⟩ := environmentLayer_eq_ok henvironment
  have hkeyed : ∀ layer ∈ sources.layers file environment, keyedEntries layer = true :=
    layers_keyed hoverrides ((settingsLayer_keyed hfiles sources).of_ok hfile)
      ((environmentLayer_keyed hfiles _).of_ok henvironment)
  replace hread : Settings.read s.logLevel
    (.dict (mergeAll (sources.layers file environment))) = .ok result := hread
  -- A layer that finds no file gains the name it was asked for, and no other place.
  have hunmentioned : ∀ {outer n : String} {rest : List Value},
      (outer = "environment" → n ≠ "name") ∨ sources.environment.file? s.files.toDisk = .ok none →
      Unmentioned sources written (.text outer :: .text n :: rest) →
      Unmentioned sources environment (.text outer :: .text n :: rest) := by
    intro outer n rest hcase h
    rcases hlayer with ⟨-, rfl, rfl⟩ | ⟨hfound, rfl⟩
    · exact h
    · exact h.named (hcase.resolve_right hfound)
  refine ⟨file, written, hfile, hwritten, ?_, ?_, ?_⟩
  · intro x h hcase
    have hholds := (Settings.holds hread x).of_leaves
    have hleaves : x.paths.findSome?
        (Value.dict (mergeAll (sources.layers file environment))).leafAt? = x.given? file := by
      apply findSome?_congr
      intro path hpath
      obtain ⟨outer, n, rest, rfl, hname⟩ := Setting.path_eq hpath
      exact leafAt?_layers hkeyed (hunmentioned (hcase.imp_left hname) (h _ hpath))
    rwa [hleaves] at hholds
  · intro name hname hfound h
    have hpath := h _ List.mem_cons_self
    -- A name the layer wrote itself would mention the place, so the name asked for stands.
    have hnone : written.get? "name" = none := by
      have htouches := (unmentioned_iff.1 hpath).1 rfl
      cases hget : written.get? "name" with
      | none => rfl
      | some w => simp [hget, touches] at htouches
    obtain ⟨-, rfl⟩ := hlayer.resolve_left fun hnone => hfound hnone.1
    have hget := leafAt?_name hkeyed (sources.environment.get?_named_name hname hnone) hpath
    have hholds := (Settings.holds hread .environmentName).of_leaves
    rw [show Setting.environmentName.paths = [[.text "environment", .text "name"]] from rfl,
      List.findSome?_singleton, hget] at hholds
    cases hholds
    rfl
  · intro htexts path h
    rw [leafAt?_bindings hread (mergeAll_underTexts hkeyed ?_)]
    · exact leafAt?_layers hkeyed (hunmentioned (.inl (by decide)) h)
    · rw [layers_eq, List.forall_mem_cons, List.forall_mem_cons] at htexts ⊢
      refine ⟨htexts.1, ?_, htexts.2.2⟩
      have henvironment : environment.get? "variables" = written.get? "variables" := by
        rcases hlayer with ⟨-, rfl, rfl⟩ | ⟨-, rfl⟩
        · rfl
        · exact EnvironmentSource.get?_named _ (by decide)
      have hwritten := htexts.2.1
      rw [TextVariables, at?_environmentEntries] at hwritten ⊢
      rwa [henvironment]

/-- A settings file with a name for the environment, and a flag. -/
def localFile : Entries :=
  [(.text "environment", .dict [(.text "name", .text "local")]),
    (.text "execution", .dict [(.text "dryRun", .text "yes")])]

def localText : List Char :=
  "\x7b\"environment\":\x7b\"name\":\"local\"\x7d,\"execution\":\x7b\"dryRun\":\"yes\"\x7d\x7d".toList

/-- A working folder with the settings file, and an environment without a name. -/
def stagingSurroundings : Surroundings where
  files := Tree.store ⟨⟨"/", ["work"]⟩,
    [(["work", "project.json"], .ok (Utf8.ascii localText)),
      (["work", "environments", "staging.env.json"], .ok (Utf8.ascii ['\x7b', '\x7d']))], []⟩
  bindings := []

/-- Sources with an environment that is asked for under its name. -/
def stagingSources : Sources :=
  ⟨none, some "project.json", ⟨some "staging", some "environments", none⟩, []⟩

def stagingSettings : Settings where
  journeyPath := none
  profiles := .default
  environment := ⟨"staging", defaultBaseUrl, []⟩
  execution := ⟨1, 100, Binary64.zero false, true, false⟩
  service := ⟨"0.0.0.0", 8080, "INFO"⟩

theorem unifyBreaks_of_no_return {cs : List Char} (h : ∀ c ∈ cs, c ≠ '\r') :
    unifyBreaks cs = cs := by
  fun_induction unifyBreaks cs with
  | case1 => rfl
  | case2 rest ih => exact absurd rfl (h '\r' List.mem_cons_self)
  | case3 c rest _ ih =>
    rw [List.forall_mem_cons] at h
    rw [ih h.2, if_neg (by simpa using h.1)]

/-- A JSON file whose characters take one byte each. -/
theorem document_of_json {s : Store} {path : Path} {cs : List Char} {v : Value}
    (hfound : s.isFile path = .ok true) (hbytes : s.read path = .ok (Utf8.ascii cs))
    (hplain : cs.all (fun c => c.toNat < 0x80 && c != '\r') = true)
    (hsuffix : Text.lowered path.suffix = ".json") (hread : Json.read cs = .ok v) :
    s.document path = .ok v := by
  simp only [List.all_eq_true, Bool.and_eq_true, decide_eq_true_eq, bne_iff_ne] at hplain
  have htext : textOf (Utf8.ascii cs) = .ok cs := by
    rw [textOf, Utf8.decode?_ascii fun c hc => (hplain c hc).1]
    dsimp only
    rw [unifyBreaks_of_no_return fun c hc => (hplain c hc).2]
  have hformat : Format.ofSuffix? ".json" = some .json := by decide
  rw [Store.document_of_read hfound hbytes, htext]
  refine bind_eq_ok.2 ⟨cs, rfl, ?_⟩
  unfold Store.documentOf
  dsimp only
  rw [hsuffix, hformat]
  dsimp only
  rw [Store.parse, hread]

theorem read_localText : Json.read localText = .ok (.dict localFile) := by
  have hname : Json.Document 1 (.dict [(.text "name", .text "local")]) :=
    .dict (by simp) ⟨rfl, trivial⟩ (by simp [Json.Document.text])
  have hflag : Json.Document 1 (.dict [(.text "dryRun", .text "yes")]) :=
    .dict (by simp) ⟨rfl, trivial⟩ (by simp [Json.Document.text])
  have hdocument : Json.Document 2 (.dict localFile) :=
    .dict (by simp [localFile]) ⟨rfl, rfl, trivial⟩ (by simp [localFile, hname, hflag])
  obtain ⟨cs, hwrite, hstands⟩ := Json.write_document hdocument
  have hcs : Json.write Json.compact (.dict localFile) = .ok localText := by rfl
  cases hwrite.symm.trans hcs
  exact hstands.read_eq (by decide)

theorem settingsLayer_staging :
    settingsLayer stagingSurroundings stagingSources = .ok localFile := by
  have hpath : Path.ofText "project.json" = ⟨"", ["project.json"]⟩ := by decide
  have hdocument : stagingSurroundings.files.document ⟨"", ["project.json"]⟩ =
      .ok (.dict localFile) :=
    document_of_json (by with_unfolding_all rfl) (by with_unfolding_all rfl) rfl (by decide)
      read_localText
  rw [settingsLayer]
  dsimp only [stagingSources]
  rw [pure_bind]
  dsimp only
  rw [hpath, hdocument]
  rfl

theorem file?_staging : stagingSources.environment.file? stagingSurroundings.files.toDisk =
    .ok (some ⟨"", ["environments", "staging.env.json"]⟩) := by
  with_unfolding_all rfl

theorem document_staging :
    stagingSurroundings.files.document ⟨"", ["environments", "staging.env.json"]⟩ =
      .ok (.dict []) :=
  document_of_json (by with_unfolding_all rfl) (by with_unfolding_all rfl) rfl (by decide) rfl

theorem written_staging :
    stagingSources.environment.written stagingSurroundings.files = .ok [] := by
  rw [EnvironmentSource.written, file?_staging]
  exact bind_eq_ok.2 ⟨_, rfl, bind_eq_ok.2 ⟨_, document_staging, rfl⟩⟩

theorem ofSources_staging :
    Settings.ofSources stagingSurroundings stagingSources = .ok stagingSettings := by
  have henvironment : environmentLayer stagingSurroundings.files stagingSources.environment =
      .ok [(.text "name", .text "staging")] := by
    rw [environmentLayer, file?_staging]
    exact bind_eq_ok.2 ⟨_, rfl, bind_eq_ok.2 ⟨_, document_staging, rfl⟩⟩
  rw [ofSources_eq_read settingsLayer_staging henvironment]
  rfl

theorem unmentioned_staging (outer n : String) (rest : List Value) :
    Unmentioned stagingSources [] (.text outer :: .text n :: rest) := by
  intro layer hlayer
  have hempty : layer = [] := by
    simpa [Sources.layers, stagingSources, layerOf] using hlayer
  rw [hempty, touches_dict_cons]
  rfl

theorem staging_survives :
    stagingSurroundings.files.Keyed ∧ keyedEntries stagingSources.overrides = true ∧
      Settings.ofSources stagingSurroundings stagingSources = .ok stagingSettings ∧
      Setting.dryRun.given? localFile = some (.text "yes") ∧
      Setting.dryRun.Holds "INFO" (Setting.dryRun.given? localFile) stagingSettings ∧
      stagingSettings.environment.name = "staging" := by
  obtain ⟨file, written, hfile, hwritten, hsettings, hname, -⟩ :=
    ofSources_survives (Tree.store_keyed _) rfl ofSources_staging
  cases settingsLayer_staging.symm.trans hfile
  cases written_staging.symm.trans hwritten
  have hunmentioned : ∀ x : Setting, ∀ path ∈ x.paths, Unmentioned stagingSources [] path := by
    intro x path hpath
    obtain ⟨outer, n, rest, rfl, -⟩ := Setting.path_eq hpath
    exact unmentioned_staging outer n rest
  refine ⟨Tree.store_keyed _, rfl, ofSources_staging, by rfl, ?_, ?_⟩
  · exact hsettings .dryRun (hunmentioned _) (.inl (by decide))
  · exact hname "staging" (by decide) (by rw [file?_staging]; nofun) (hunmentioned _)

/-- The name that the settings file gives to the environment does not survive one that is asked for
    under another name, though its file mentions no name. -/
theorem environmentName_not_kept : ¬ ∀ (s : Surroundings) (sources : Sources) (result : Settings)
    (file written : Entries) (x : Setting), s.files.Keyed → keyedEntries sources.overrides = true →
      Settings.ofSources s sources = .ok result → settingsLayer s sources = .ok file →
      sources.environment.written s.files = .ok written →
      (∀ path ∈ x.paths, Unmentioned sources written path) →
      x.Holds s.logLevel (x.given? file) result := by
  intro h
  have hholds := h _ _ _ _ _ .environmentName (Tree.store_keyed _) rfl ofSources_staging
    settingsLayer_staging
    written_staging fun path hpath => by
      obtain ⟨outer, n, rest, rfl, -⟩ := Setting.path_eq hpath
      exact unmentioned_staging outer n rest
  have hgiven : Setting.environmentName.given? localFile = some (.text "local") := by rfl
  rw [hgiven] at hholds
  have hnames : Value.text "local" = .text "staging" := Verdict.accepted_inj.1 hholds
  exact absurd (Value.text.inj hnames) (by decide)

end ApiJourney.Runner
