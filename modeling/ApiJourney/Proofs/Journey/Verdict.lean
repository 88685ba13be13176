-- SUMMARY: What the verdict on a journey has to do with the environment it is loaded in.
import ApiJourney.Proofs.Journey.Acceptance
import ApiJourney.Proofs.Journey.Loading
import ApiJourney.Proofs.Request.Totality
import ApiJourney.Proofs.Service.Effects

/-!
# Verdicts on journeys

Whether a document is a journey does not depend on an environment, and neither does whether its
references dangle. But the base and the headers of the defaults are filled before the journey is
judged, and headers that are no texts any more are refused: so a journey can be refused without
an environment and accepted in one.
-/

namespace ApiJourney

open Schema Template RenderedRequest

namespace LoadedJourney

variable {context : Value} {d : JourneyDefaults} {j : Journey} {hs : Entries}

/-! ## Filled defaults -/

/-- What defaults keep when their headers are filled. -/
def kept (d : JourneyDefaults) : Entries :=
  (d.timeout.map fun t => (.text "timeout", .float t)).toList ++
    (d.thinkTime.map fun t => (.text "thinkTime", t.toValue)).toList

theorem heldFields_eq (d : JourneyDefaults) :
    heldFields d = (.text "headers", .dict (entriesOf d.headers)) :: kept d := by
  rw [heldFields, textMap_eq, List.append_assoc]
  rfl

theorem fillAll_thinkTime (context : Value) (t : ThinkTime) :
    fillAll context t.toValue = .ok t.toValue := by
  cases t with
  | fixed x => simp [ThinkTime.toValue, fillAll]
  | range r =>
    have hmin : fillText context "min" = .ok (.text "min") :=
      fillText_inert context (by decide +kernel) (by decide)
    have hmax : fillText context "max" = .ok (.text "max") :=
      fillText_inert context (by decide +kernel) (by decide)
    simp [ThinkTime.toValue, ThinkRange.toValue, Value.object, fillAll, fillEntries, fill, hmin,
      hmax, bind, Except.bind, Value.hashable, Entries.insert]

/-- Only the headers of defaults are filled. -/
theorem fillAll_heldFields (context : Value) (d : JourneyDefaults) :
    fillAll context (.dict (heldFields d)) =
      (fillEntries context [] (entriesOf d.headers)).map fun hs =>
        .dict ((.text "headers", .dict hs) :: kept d) := by
  have hheaders : fillText context "headers" = .ok (.text "headers") :=
    fillText_inert context (by decide +kernel) (by decide)
  have htimeout : fillText context "timeout" = .ok (.text "timeout") :=
    fillText_inert context (by decide +kernel) (by decide)
  have hthinkTime : fillText context "thinkTime" = .ok (.text "thinkTime") :=
    fillText_inert context (by decide +kernel) (by decide)
  obtain ⟨headers, timeout, thinkTime⟩ := d
  rw [heldFields_eq]
  cases hfilled : fillEntries context [] (entriesOf headers) with
  | error f => simp [fillAll, fillEntries, fill, hheaders, hfilled, bind, Except.bind, Except.map]
  | ok hs =>
    cases timeout <;> cases thinkTime <;>
      simp [kept, fillAll, fillEntries, fill, hheaders, htimeout, hthinkTime, hfilled,
        fillAll_thinkTime, bind, Except.bind, Except.map, Value.hashable, Entries.insert]

theorem isNull_toValue (t : ThinkTime) : t.toValue.isNull = false := by
  cases t <;> rfl

/-- Of filled defaults only the headers are judged anew. -/
theorem read_filled (h : d.Settled) (hs : Entries) :
    JourneyDefaults.read (.dict ((.text "headers", .dict hs) :: kept d)) =
      ((texts (.dict hs)).under (.field "headers")).map fun headers => { d with headers } := by
  let es : Entries := (.text "headers", .dict hs) :: kept d
  have hheaders : withDefault es ["headers"] [] texts =
      (texts (.dict hs)).under (.field "headers") := rfl
  have htimeout : optional es ["timeout"] (numberAbove 0) = .accepted d.timeout := by
    obtain ⟨headers, timeout, thinkTime⟩ := d
    cases timeout with
    | none => cases thinkTime <;> rfl
    | some t =>
      refine withDefault_eq_accepted.2 (.inl ⟨"timeout", .float t, ?_, ?_⟩)
      · cases thinkTime <;> rfl
      · exact nullable_eq_accepted rfl (h.timeout t rfl)
  have hthinkTime : optional es ["thinkTime", "think_time"] ThinkTime.read =
      .accepted d.thinkTime := by
    obtain ⟨headers, timeout, thinkTime⟩ := d
    cases thinkTime with
    | none => cases timeout <;> rfl
    | some t =>
      refine withDefault_eq_accepted.2 (.inl ⟨"thinkTime", t.toValue, ?_, ?_⟩)
      · cases timeout <;> rfl
      · exact nullable_eq_accepted (isNull_toValue t) (h.thinkTime t rfl)
  change JourneyDefaults.mk <$> withDefault es ["headers"] [] texts <*>
    optional es ["timeout"] (numberAbove 0) <*>
    optional es ["thinkTime", "think_time"] ThinkTime.read = _
  rw [hheaders, htimeout, hthinkTime]
  cases texts (.dict hs) <;> rfl

/-- Filled defaults are what they were, but for their headers. -/
theorem fillDefaults_eq (h : d.Settled) (context : Value) :
    fillDefaults context d = (do
      let hs ← orFault (fillEntries context [] (entriesOf d.headers))
      accepted "JourneyDefaults"
        (((texts (.dict hs)).under (.field "headers")).map fun headers => { d with headers })) := by
  rw [fillDefaults, withoutNulls_toValue, fillAll_heldFields]
  cases fillEntries context [] (entriesOf d.headers) with
  | error f => rfl
  | ok hs => exact congrArg (accepted "JourneyDefaults") (read_filled h hs)

/-! ## Filled headers -/

/-- The headers of the defaults of a journey filled, once its base could be. -/
def filledHeaders (context : Value) (j : Journey) : Except Fault Entries := do
  let _ ← fillBase context j.baseUrl
  fillEntries context [] (entriesOf j.defaults.headers)

/-- A value is read as a text. -/
def ReadsText (v : Value) : Prop :=
  ∃ s, text v = .accepted s

/-- All names and values of headers are read as texts. -/
def AreTexts (hs : Entries) : Prop :=
  ∀ e ∈ hs, ReadsText e.1 ∧ ReadsText e.2

theorem areTexts_iff : AreTexts hs ↔ ∃ headers, texts (.dict hs) = .accepted headers := by
  have hall : AreTexts hs ↔
      ∀ e ∈ hs, ∃ y : String × String, text e.1 = .accepted y.1 ∧ text e.2 = .accepted y.2 := by
    refine forall₂_congr fun e _ => ?_
    constructor
    · rintro ⟨⟨name, hname⟩, value, hvalue⟩
      exact ⟨(name, value), hname, hvalue⟩
    · rintro ⟨y, hname, hvalue⟩
      exact ⟨⟨y.1, hname⟩, y.2, hvalue⟩
  rw [hall, ← exists_forall₂]
  simp only [texts, dictionary, Verdict.map_eq_accepted, entries_eq_accepted]
  constructor
  · rintro ⟨ys, hys⟩
    exact ⟨_, ys, hys, rfl⟩
  · rintro ⟨_, ys, hys, -⟩
    exact ⟨ys, hys⟩

/-- What comes of a journey, by what its headers were filled to. -/
inductive VerdictOn (j : Journey) : Except Fault Entries → Attempt LoadedJourney → Prop where
  | faulty (f : Fault) : VerdictOn j (.error f) (.error (.fault f))
  | refused {hs : Entries} (issues : List Issue) : ¬ AreTexts hs →
      VerdictOn j (.ok hs) (.error (.invalid "JourneyDefaults" issues))
  | dangling {hs : Entries} : AreTexts hs → hasErrors j.findings = true →
      VerdictOn j (.ok hs) (.error (.dangling j.findings))
  | accepted {hs : Entries} (l : LoadedJourney) : AreTexts hs → hasErrors j.findings = false →
      VerdictOn j (.ok hs) (.ok l)

theorem fillDefaults_refused (h : d.Settled)
    (hfilled : fillEntries context [] (entriesOf d.headers) = .ok hs) (htexts : ¬ AreTexts hs) :
    ∃ issues, fillDefaults context d = .error (.invalid "JourneyDefaults" issues) := by
  rw [fillDefaults_eq h, hfilled]
  change ∃ issues, accepted "JourneyDefaults" _ = _
  cases hread : texts (.dict hs) with
  | accepted headers => exact absurd (areTexts_iff.2 ⟨headers, hread⟩) htexts
  | refused issues => exact ⟨_, rfl⟩

theorem fillDefaults_accepted (h : d.Settled)
    (hfilled : fillEntries context [] (entriesOf d.headers) = .ok hs) (htexts : AreTexts hs) :
    ∃ d', fillDefaults context d = .ok d' := by
  obtain ⟨headers, hread⟩ := areTexts_iff.1 htexts
  rw [fillDefaults_eq h, hfilled]
  change ∃ d', accepted "JourneyDefaults" _ = _
  rw [hread]
  exact ⟨{ d with headers }, rfl⟩

theorem verdictOn_ofJourney (h : j.defaults.Settled) (environment : Option Entries)
    (bindings : Entries) :
    VerdictOn j (filledHeaders (.dict (LoadedJourney.context j environment bindings)) j)
      (ofJourney j environment bindings) := by
  unfold ofJourney filledHeaders
  generalize Value.dict (LoadedJourney.context j environment bindings) = context
  dsimp only
  cases fillBase context j.baseUrl with
  | error f => exact .faulty f
  | ok base =>
    cases hfilled : fillEntries context [] (entriesOf j.defaults.headers) with
    | error f =>
      rw [fillDefaults_eq h, hfilled]
      exact .faulty f
    | ok hs =>
      by_cases htexts : AreTexts hs
      · obtain ⟨d, hd⟩ := fillDefaults_accepted h hfilled htexts
        rw [hd]
        cases herrors : hasErrors j.findings with
        | true => exact .dangling htexts herrors
        | false => exact .accepted _ htexts herrors
      · obtain ⟨issues, hissues⟩ := fillDefaults_refused h hfilled htexts
        rw [hissues]
        exact .refused issues htexts

/-! ## Two environments -/

/-- Failures to load a journey of one kind: faults that are reported alike, documents that are no
    record, or dangling references. -/
inductive SameKind : Failure → Failure → Prop where
  | fault {f f' : Fault} : f.name = f'.name → SameKind (.fault f) (.fault f')
  | invalid (record record' : String) (issues issues' : List Issue) :
      SameKind (.invalid record issues) (.invalid record' issues')
  | dangling (findings findings' : List Finding) :
      SameKind (.dangling findings) (.dangling findings')

/-- Two loads accept a journey both, or refuse it for failures of one kind. -/
inductive SameVerdict : Attempt LoadedJourney → Attempt LoadedJourney → Prop where
  | accepted (l l' : LoadedJourney) : SameVerdict (.ok l) (.ok l')
  | refused {e e' : Failure} : SameKind e e' → SameVerdict (.error e) (.error e')

theorem SameVerdict.accepts_iff {verdict verdict' : Attempt LoadedJourney}
    (h : SameVerdict verdict verdict') : (∃ l, verdict = .ok l) ↔ ∃ l, verdict' = .ok l := by
  cases h with
  | accepted l l' => exact iff_of_true ⟨l, rfl⟩ ⟨l', rfl⟩
  | refused _ => exact iff_of_false nofun nofun

/-- Filling fails alike, or gives texts on both sides or on neither. -/
def FilledAlike : Except Fault Entries → Except Fault Entries → Prop
  | .ok hs, .ok hs' => AreTexts hs ↔ AreTexts hs'
  | .error f, .error f' => f.name = f'.name
  | _, _ => False

theorem sameVerdict_iff {filled filled' : Except Fault Entries}
    {verdict verdict' : Attempt LoadedJourney} (h : VerdictOn j filled verdict)
    (h' : VerdictOn j filled' verdict') :
    SameVerdict verdict verdict' ↔ FilledAlike filled filled' := by
  -- Four verdicts against four: alike are only those where both fillings give texts or both do not.
  cases h with
  | faulty f =>
    cases h' with
    | faulty f' =>
      constructor
      · rintro (_ | ⟨⟨hname⟩⟩)
        exact hname
      · exact fun hname => .refused (.fault hname)
    | _ => exact iff_of_false (by rintro (_ | ⟨⟨⟩⟩)) id
  | refused issues htexts =>
    cases h' with
    | faulty f' => exact iff_of_false (by rintro (_ | ⟨⟨⟩⟩)) id
    | refused issues' htexts' =>
      exact iff_of_true (.refused (.invalid _ _ _ _)) (iff_of_false htexts htexts')
    | dangling htexts' _ =>
      exact iff_of_false (by rintro (_ | ⟨⟨⟩⟩)) fun hiff => htexts (hiff.2 htexts')
    | accepted l htexts' _ => exact iff_of_false nofun fun hiff => htexts (hiff.2 htexts')
  | dangling htexts herrors =>
    cases h' with
    | faulty f' => exact iff_of_false (by rintro (_ | ⟨⟨⟩⟩)) id
    | refused issues' htexts' =>
      exact iff_of_false (by rintro (_ | ⟨⟨⟩⟩)) fun hiff => htexts' (hiff.1 htexts)
    | dangling htexts' _ =>
      exact iff_of_true (.refused (.dangling _ _)) (iff_of_true htexts htexts')
    | accepted l _ hnone => rw [herrors] at hnone; cases hnone
  | accepted l htexts hnone =>
    cases h' with
    | faulty f' => exact iff_of_false nofun id
    | refused issues' htexts' => exact iff_of_false nofun fun hiff => htexts' (hiff.1 htexts)
    | dangling _ herrors => rw [herrors] at hnone; cases hnone
    | accepted l' htexts' _ => exact iff_of_true (.accepted l l') (iff_of_true htexts htexts')

/-- What a load in an environment fills from, without further variables. -/
def contextIn (environment : Option Entries) (j : Journey) : Value :=
  .dict (LoadedJourney.context j environment [])

/-- The headers of the defaults as a load in an environment fills them. -/
def headersIn (environment : Option Entries) (j : Journey) : Except Fault Entries :=
  filledHeaders (contextIn environment j) j

theorem ofDocument_sameVerdict_iff (document : Value) (environment environment' : Option Entries) :
    SameVerdict (ofDocument document environment []) (ofDocument document environment' []) ↔
      ∀ j, Journey.read document = .accepted j →
        FilledAlike (headersIn environment j) (headersIn environment' j) := by
  unfold ofDocument
  cases hread : Journey.read document with
  | refused issues => exact iff_of_true (.refused (.invalid _ _ _ _)) nofun
  | accepted j =>
    have hsettled := Journey.settled_defaults hread
    have hiff := sameVerdict_iff (verdictOn_ofJourney hsettled environment [])
      (verdictOn_ofJourney hsettled environment' [])
    refine hiff.trans ⟨?_, fun h => h j rfl⟩
    rintro h j' ⟨⟩
    exact h

/-! ## Wrong documents -/

section Wrong

variable {document : Value} {environment : Option Entries}

/-- A failure that says what is wrong with a document. -/
def isVerdict : Failure → Bool
  | .invalid _ _ => true
  | .dangling _ => true
  | _ => false

end Wrong

/-! ## Tokens among headers -/

/-- The typed tokens among headers stand for texts, but for those in a value that a later one of
    the same name takes the place of. -/
structure TokensAreTexts (context : Value) (headers : List (String × String)) : Prop where
  names : ∀ e ∈ headers, ∀ v, StandsFor context e.1 v → v.IsText
  values : ∀ e, Latest (fillText context ·.1) e headers → ∀ v, StandsFor context e.2 v → v.IsText

theorem isText_iff_tokens {s : String} {v : Value} (h : fillText context s = .ok v) :
    v.IsText ↔ ∀ w, StandsFor context s w → w.IsText := by
  constructor
  · intro htext w hw
    rw [hw.fillText_eq, Except.ok.injEq] at h
    rwa [h]
  · intro htokens
    exact (isText_or_standsFor h).elim id (htokens v)

/-- Headers that could be filled are texts exactly if the typed tokens among them stand for
    texts. -/
theorem areTexts_iff_tokens (hcontext : context.IsJson) {headers : List (String × String)}
    (h : fillEntries context [] (entriesOf headers) = .ok hs) :
    AreTexts hs ↔ TokensAreTexts context headers := by
  obtain ⟨gs, hgs, rfl⟩ := fillEntries_eq_ok.1 h
  have hjson : ∀ g ∈ gs, g.1.IsJson ∧ g.2.IsJson := fun g hg => by
    obtain ⟨e, he, hfills⟩ := exists_of_mem_left hgs.flip hg
    obtain ⟨e, -, rfl⟩ := List.mem_map.1 he
    exact ⟨isJson_fillText hcontext hfills.key, isJson_fillText hcontext hfills.value⟩
  -- Values that coincide in one key are dropped, so the entries are judged before they are merged.
  have htexts : AreTexts (Entries.ofList gs) ↔
      ∀ f ∈ Entries.ofList gs, f.1.IsText ∧ f.2.IsText := by
    refine forall₂_congr fun f hf => and_congr (text_eq_accepted ?_) (text_eq_accepted ?_)
    · exact Entries.key_update (List.forall_mem_nil _) (fun g hg => (hjson g hg).1) f hf
    · exact Entries.value_update (List.forall_mem_nil _) (fun g hg => (hjson g hg).2) f hf
  refine htexts.trans ((filledNames_iff hgs fun s v => isText_iff_tokens).trans ?_)
  have hfills : ∀ e ∈ headers, ∃ k, fillText context e.1 = .ok k := fun e he => by
    obtain ⟨g, -, hg⟩ := exists_of_mem_left hgs (List.mem_map_of_mem he)
    exact ⟨g.1, hg.key⟩
  constructor
  · rintro ⟨hnames, hvalues⟩
    refine ⟨fun e he => ?_, hvalues⟩
    obtain ⟨k, hk⟩ := hfills e he
    exact (isText_iff_tokens hk).1 (hnames e he k hk)
  · rintro ⟨hnames, hvalues⟩
    exact ⟨fun e he k hk => (isText_iff_tokens hk).2 (hnames e he), hvalues⟩

/-! ## Headers that resolve -/

/-- All paths that a load fills can be written, and the typed tokens among the headers of the
    defaults stand for texts. -/
structure Resolves (context : Value) (j : Journey) : Prop where
  base : ∀ b ∈ Text.given? j.baseUrl, ∀ path ∈ textPaths b, Writes context path
  headers : ∀ e ∈ j.defaults.headers, ∀ path ∈ textPaths e.1 ++ textPaths e.2, Writes context path
  tokens : ∀ e ∈ j.defaults.headers, ∀ v,
    StandsFor context e.1 v ∨ StandsFor context e.2 v → ReadsText v

theorem exists_fillText {s : String} (h : ∀ path ∈ textPaths s, Writes context path) :
    ∃ v, fillText context s = .ok v := by
  by_cases htyped : ∃ path, IsTyped s path
  · obtain ⟨path, htyped⟩ := htyped
    rw [htyped.textPaths_eq, List.forall_mem_singleton] at h
    obtain ⟨found, hfound, -⟩ := h
    exact ⟨_, htyped.fillText_eq.trans (map_eq_ok.2 ⟨found, hfound, rfl⟩)⟩
  · exact (fillText_untyped context (not_exists.1 htyped)).1.2 h

theorem readsText_of_fillText {s : String} {v : Value} (h : fillText context s = .ok v)
    (htokens : ∀ v, StandsFor context s v → ReadsText v) : ReadsText v := by
  rcases isText_or_standsFor h with ⟨t, rfl⟩ | hstands
  · exact ⟨t, rfl⟩
  · exact htokens v hstands

theorem ReadsText.hashable {v : Value} (h : ReadsText v) : v.hashable = true := by
  obtain ⟨s, hs⟩ := h
  cases v with
  | text _ => rfl
  | bytes _ => rfl
  | _ => cases hs

theorem Resolves.exists_headers (h : Resolves context j) :
    ∃ hs, filledHeaders context j = .ok hs ∧ AreTexts hs := by
  have hbase : ∃ base, fillBase context j.baseUrl = .ok base := by
    unfold fillBase
    cases hgiven : Text.given? j.baseUrl with
    | none => exact ⟨_, rfl⟩
    | some b => exact exists_fillText (h.base b hgiven)
  have hfilled : ∀ e ∈ entriesOf j.defaults.headers, ∃ f : Value × Value,
      FillsTo context e f ∧ ReadsText f.1 ∧ ReadsText f.2 := by
    refine List.forall_mem_map.2 fun e he => ?_
    obtain ⟨hname, hvalue⟩ := List.forall_mem_append.1 (h.headers e he)
    obtain ⟨k, hk⟩ := exists_fillText hname
    obtain ⟨v, hv⟩ := exists_fillText hvalue
    have hkey : ReadsText k := readsText_of_fillText hk fun w hw => h.tokens e he w (.inl hw)
    have htext : ReadsText v := readsText_of_fillText hv fun w hw => h.tokens e he w (.inr hw)
    exact ⟨(k, v), ⟨hk, hv, hkey.hashable⟩, hkey, htext⟩
  obtain ⟨base, hbase⟩ := hbase
  obtain ⟨gs, hgs⟩ := exists_forall₂.2 hfilled
  have htexts : ∀ g ∈ gs, ReadsText g.1 ∧ ReadsText g.2 := fun g hg => by
    obtain ⟨e, -, he⟩ := exists_of_mem_left hgs.flip hg
    exact he.2
  have hentries : fillEntries context [] (entriesOf j.defaults.headers) = .ok (Entries.ofList gs) :=
    fillEntries_eq_ok.2 ⟨gs, hgs.imp fun _ _ hef => hef.1, rfl⟩
  refine ⟨_, bind_eq_ok.2 ⟨base, hbase, hentries⟩, fun e he => ⟨?_, ?_⟩⟩
  · exact Entries.key_update (List.forall_mem_nil _) (fun g hg => (htexts g hg).1) e he
  · exact Entries.value_update (List.forall_mem_nil _) (fun g hg => (htexts g hg).2) e he

end LoadedJourney

/-! ## Checks and loads -/

namespace Service

open LoadedJourney

variable {F : Faker} {x : Supply F} {s : State F} {body : Option Value} {r : LoadRequest}

/-- The body of a load is one of a check. -/
theorem readBody_checkRequest (h : readBody body LoadRequest.fields = .ok r) :
    readBody body checkRequest = .ok r.journey := by
  have hbody : ∃ es, body = some (.dict es) ∧ LoadRequest.fields es = .accepted r := by
    cases body with
    | none => cases h
    | some v =>
      cases v with
      | dict es =>
        refine ⟨es, rfl, ?_⟩
        cases hfields : LoadRequest.fields es <;> simp_all [readBody, Schema.Verdict.under]
      | _ => cases h
  obtain ⟨es, rfl, hfields⟩ := hbody
  simp only [LoadRequest.fields, Verdict.seq_eq_accepted, Verdict.map_eq_accepted] at hfields
  obtain ⟨_, _, ⟨_, _, ⟨_, _, ⟨_, _, ⟨_, _, ⟨journey, hjourney, rfl⟩, -, rfl⟩, -, rfl⟩, -, rfl⟩, -,
    rfl⟩, -, rfl⟩ := hfields
  rw [readBody, checkRequest, hjourney]
  rfl

theorem validate_accepts_iff {journey : Entries} (h : readBody body checkRequest = .ok journey) :
    (∃ findings, validate body = plain (verdictValue true [] findings)) ↔
      ∃ l, ofDocument (.dict journey) none [] = .ok l := by
  cases hverdict : ofDocument (.dict journey) none [] with
  | ok l =>
    have hvalid : validate body = plain (verdictValue true [] l.findings) := by
      simp only [validate, h, hverdict, bind, Except.bind]
    exact iff_of_true ⟨_, hvalid⟩ ⟨l, rfl⟩
  | error e =>
    cases e <;> simp [validate, h, hverdict, bind, Except.bind, plain, verdictValue, Value.object]

theorem load_accepts_iff {source : Option (Distributor F)}
    (h : readBody body LoadRequest.fields = .ok r) (hsource : loadSource x r = .ok source) :
    (∃ c, (load x body s).1 = .ok c) ↔
      ∃ l, ofDocument (.dict r.journey) r.environment [] = .ok l := by
  rw [load, h]
  dsimp only
  rw [hsource]
  cases ofDocument (.dict r.journey) r.environment [] with
  | ok l => exact iff_of_true ⟨_, rfl⟩ ⟨l, rfl⟩
  | error e => exact iff_of_false nofun nofun

end Service

namespace LoadedJourney

open Service

/-- Everything that a load in an environment fills resolves. -/
def ResolvesIn (environment : Option Entries) (j : Journey) : Prop :=
  Resolves (contextIn environment j) j

/-- A document gets the same verdict in two environments exactly if, where it is a journey, filling
    the headers of its defaults fails alike in both, or gives texts in both or in neither. From
    JSON values it gives texts exactly if the typed tokens among them stand for texts. So the
    verdict is the same if all that is filled resolves in both environments; and where a load in
    an environment comes to the verdict that there is without one, a check accepts just what the
    load does. -/
theorem ofDocument_sameVerdict (document : Value) (environment environment' : Option Entries) :
    (SameVerdict (ofDocument document environment []) (ofDocument document environment' []) ↔
      ∀ j, Journey.read document = .accepted j →
        FilledAlike (headersIn environment j) (headersIn environment' j)) ∧
    (∀ j, Journey.read document = .accepted j → (contextIn environment j).IsJson →
      ∀ hs, headersIn environment j = .ok hs →
        (AreTexts hs ↔ TokensAreTexts (contextIn environment j) j.defaults.headers)) ∧
    ((∀ j, Journey.read document = .accepted j →
        ResolvesIn environment j ∧ ResolvesIn environment' j) →
      SameVerdict (ofDocument document environment []) (ofDocument document environment' [])) ∧
    ∀ (F : Faker) (x : Supply F) (s : State F) (body : Option Value) (r : LoadRequest)
      (source : Option (Distributor F)), readBody body LoadRequest.fields = .ok r →
      loadSource x r = .ok source →
      SameVerdict (ofDocument (.dict r.journey) none [])
        (ofDocument (.dict r.journey) r.environment []) →
      ((∃ findings, validate body = plain (verdictValue true [] findings)) ↔
        ∃ c, (load x body s).1 = .ok c) := by
  refine ⟨ofDocument_sameVerdict_iff document environment environment', ?_, ?_, ?_⟩
  · intro j _ hjson hs hfilled
    obtain ⟨_, -, hentries⟩ := bind_eq_ok.1 hfilled
    exact areTexts_iff_tokens hjson hentries
  · intro h
    refine (ofDocument_sameVerdict_iff document environment environment').2 fun j hj => ?_
    obtain ⟨hresolves, hresolves'⟩ := h j hj
    obtain ⟨hs, hfilled, htexts⟩ := hresolves.exists_headers
    obtain ⟨hs', hfilled', htexts'⟩ := hresolves'.exists_headers
    rw [headersIn, headersIn, hfilled, hfilled']
    exact iff_of_true htexts htexts'
  · intro F x s body r source hbody hsource hsame
    rw [validate_accepts_iff (readBody_checkRequest hbody), load_accepts_iff hbody hsource]
    exact hsame.accepts_iff

/-! ## A header from the environment -/

/-- A journey of one step, with one header for all requests. -/
def headerJourney (value : String) : Journey :=
  { Journey.plainJourney [Journey.plainStep "create" none] with
    defaults := ⟨[("Authorization", value)], none, none⟩ }

theorem read_headerJourney (value : String) :
    Journey.read (headerJourney value).toValue = .accepted (headerJourney value) := by
  cbv

def tokenEnvironment : Entries :=
  [(.text "TOKEN", .text "s3cret")]

def bearer : String := "Bearer \x7b\x7benv.TOKEN\x7d\x7d"

def loadBearer : Value :=
  .object [("journey", (headerJourney bearer).toValue), ("environment", .dict tokenEnvironment)]

/-- A placeholder that can be looked up resolves, whatever is there, as long as it has a text. -/
theorem bearer_resolvesIn {environment : Option Entries}
    (h : Writes (contextIn environment (headerJourney bearer)) "env.TOKEN".toList) :
    ResolvesIn environment (headerJourney bearer) where
  base := nofun
  headers e he := by
    obtain rfl := List.mem_singleton.1 he
    have hname : textPaths "Authorization" = [] := by decide
    have hvalue : textPaths bearer = ["env.TOKEN".toList] := by decide
    rw [hname, hvalue]
    exact List.forall_mem_singleton.2 h
  tokens e he := by
    obtain rfl := List.mem_singleton.1 he
    have hname : tokenBody? "Authorization".toList = none := by decide
    have hvalue : tokenBody? bearer.toList = none := by decide
    rintro v (⟨path, _, ⟨body, hbody, -⟩, -⟩ | ⟨path, _, ⟨body, hbody, -⟩, -⟩)
    · rw [hname] at hbody
      cases hbody
    · rw [hvalue] at hbody
      cases hbody

theorem writes_noToken : Writes (contextIn none (headerJourney bearer)) "env.TOKEN".toList :=
  ⟨none, by cbv, nofun⟩

theorem writes_token :
    Writes (contextIn (some tokenEnvironment) (headerJourney bearer)) "env.TOKEN".toList := by
  refine ⟨some (.text "s3cret"), by cbv, ?_⟩
  rintro v ⟨⟩
  exact ⟨"s3cret", rfl⟩

theorem read_loadBearer : ∃ es, (headerJourney bearer).toValue = .dict es ∧
    readBody (some loadBearer) LoadRequest.fields =
      .ok ⟨es, none, none, some tokenEnvironment, ".", false⟩ :=
  ⟨_, rfl, rfl⟩

theorem isJson_contextIn : (contextIn (some tokenEnvironment) (headerJourney bearer)).IsJson := by
  have henv : (Value.object [("TOKEN", .text "s3cret")]).IsJson := by
    simp [Value.isJson_object_iff, Value.IsJson.text]
  have hcontext : contextIn (some tokenEnvironment) (headerJourney bearer) =
      .object [("env", .object [("TOKEN", .text "s3cret")])] := rfl
  rw [hcontext, Value.isJson_object_iff]
  simp [henv]

theorem bearer_sameVerdict :
    SameVerdict (ofDocument (headerJourney bearer).toValue none [])
      (ofDocument (headerJourney bearer).toValue (some tokenEnvironment) []) ∧
    TokensAreTexts (contextIn (some tokenEnvironment) (headerJourney bearer))
      [("Authorization", bearer)] ∧
    ((∃ findings, validate (some loadBearer) = plain (verdictValue true [] findings)) ↔
      ∃ c, (load (supplyFor "ada") (some loadBearer) .initial).1 = .ok c) := by
  obtain ⟨-, -, hresolves, hagree⟩ := ofDocument_sameVerdict (headerJourney bearer).toValue none
    (some tokenEnvironment)
  have hsame := hresolves fun j hj => by
    rw [read_headerJourney] at hj
    cases hj
    exact ⟨bearer_resolvesIn writes_noToken, bearer_resolvesIn writes_token⟩
  obtain ⟨hs, hfilled, htexts⟩ := (bearer_resolvesIn writes_token).exists_headers
  have htokens := (ofDocument_sameVerdict (headerJourney bearer).toValue (some tokenEnvironment)
    none).2.1 _ (read_headerJourney bearer) isJson_contextIn hs hfilled
  obtain ⟨es, hes, hbody⟩ := read_loadBearer
  refine ⟨hsame, htokens.1 htexts, ?_⟩
  refine hagree .small (supplyFor "ada") .initial _ _ none hbody rfl ?_
  rwa [hes] at hsame

/-- The header of the defaults becomes the value that it is filled with. -/
theorem headersIn_header {environment : Option Entries} {value : String} {v : Value}
    (hv : fillText (contextIn environment (headerJourney value)) value = .ok v) :
    headersIn environment (headerJourney value) = .ok [(.text "Authorization", v)] := by
  have hname : fillText (contextIn environment (headerJourney value)) "Authorization" =
      .ok (.text "Authorization") := fillText_inert _ (by decide) (by decide)
  have hentries : entriesOf (headerJourney value).defaults.headers =
      [(.text "Authorization", .text value)] := rfl
  have hfilled : fillEntries (contextIn environment (headerJourney value)) []
      (entriesOf (headerJourney value).defaults.headers) = .ok [(.text "Authorization", v)] := by
    simp [hentries, fillEntries, fill, fillAll, hname, hv, bind, Except.bind, Value.hashable,
      Entries.insert]
  exact bind_eq_ok.2 ⟨.null, rfl, hfilled⟩

/-- A token for a variable of the environment as a header, and the verdict depends on it. -/
theorem ofDocument_not_sameVerdict :
    ¬ ∀ (document : Value) (environment environment' : Option Entries),
      SameVerdict (ofDocument document environment []) (ofDocument document environment' []) := by
  intro h
  let j := headerJourney "##VAR:unquoted:env.TOKEN##"
  have hread : Journey.read j.toValue = .accepted j := read_headerJourney _
  have hnone : headersIn none j = .ok [(.text "Authorization", .null)] :=
    headersIn_header (by cbv)
  have htoken : headersIn (some tokenEnvironment) j =
      .ok [(.text "Authorization", .text "s3cret")] := headersIn_header (by cbv)
  have halike := (ofDocument_sameVerdict_iff _ none (some tokenEnvironment)).1 (h _ _ _) _ hread
  rw [hnone, htoken] at halike
  have htexts : AreTexts [(.text "Authorization", .text "s3cret")] :=
    List.forall_mem_singleton.2 ⟨⟨_, rfl⟩, _, rfl⟩
  obtain ⟨-, s, hs⟩ := halike.2 htexts _ List.mem_cons_self
  cases hs

end LoadedJourney

end ApiJourney
