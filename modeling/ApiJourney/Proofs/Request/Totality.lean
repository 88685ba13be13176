-- SUMMARY: When a request can be rendered from JSON variables.
import ApiJourney.Proofs.Flow.Run
import ApiJourney.Proofs.Request.Rendering
import ApiJourney.Proofs.Template.Fillable
import ApiJourney.Proofs.Template.Refilling
import ApiJourney.Proofs.Url.Joining
import ApiJourney.Proofs.User.BuiltIns

/-!
# Requests that can be rendered

A request is rendered from JSON variables exactly if each of its templates can be filled, and those
of the URL and of names are filled with texts. Header values, query values and the body take values
of any kind and are written; a URL, a name and a base do not.
-/

namespace ApiJourney.RenderedRequest

open Schema Template
open Value (IsJson IsText TextKeyed)

variable {context : Value}

/-! ## Named texts -/

/-- Named texts can be filled: the names become texts, and of the values of a name the last one
    is written. -/
structure NamesFill (context : Value) (texts : List (String × String)) : Prop where
  names : ∀ e ∈ texts, FillsAs context IsText (.text e.1)
  values : ∀ e ∈ texts, Fillable context e.2
  written : ∀ e, Latest (fillText context ·.1) e texts →
    ∀ v, StandsFor context e.2 v → ¬ v.HoldsLong

theorem text_eq_accepted {v : Value} (h : IsJson v) : (∃ s, text v = .accepted s) ↔ v.IsText := by
  cases h with
  | text s => exact iff_of_true ⟨s, rfl⟩ ⟨s, rfl⟩
  | _ => simp [text, IsText, Value.object]

/-- Filled named texts are read if all names are texts and all values have a text. -/
theorem read_textEntries {filled : Entries} (hkeys : ∀ f ∈ filled, IsJson f.1) :
    (∃ es named, textEntries filled = .ok es ∧ dictionary text (.dict es) = .accepted named) ↔
      ∀ f ∈ filled, f.1.IsText ∧ ∃ t, textOf f.2 = .ok t := by
  simp only [dictionary, Verdict.map_eq_accepted, textEntries_eq_ok, entries_eq_accepted]
  constructor
  · rintro ⟨es, -, hwritten, ys, hread, -⟩ f hf
    obtain ⟨e, he, hkey, t, ht, -⟩ := exists_of_mem_left hwritten hf
    obtain ⟨y, -, hy, -⟩ := exists_of_mem_left hread he
    exact ⟨(text_eq_accepted (hkeys f hf)).1 ⟨_, hkey ▸ hy⟩, t, ht⟩
  · intro h
    have hwritten : ∀ f ∈ filled, ∃ e : Value × Value,
        e.1 = f.1 ∧ ∃ t, textOf f.2 = .ok t ∧ e.2 = .text t := fun f hf => by
      obtain ⟨t, ht⟩ := (h f hf).2
      exact ⟨(f.1, .text t), rfl, t, ht, rfl⟩
    obtain ⟨es, hes⟩ := exists_forall₂.2 hwritten
    have hread : ∀ e ∈ es, ∃ y : String × String,
        text e.1 = .accepted y.1 ∧ text e.2 = .accepted y.2 := by
      -- Reading follows the writing entry by entry: a written value is a text, and so is the key.
      clear hwritten
      induction hes with
      | nil => exact List.forall_mem_nil _
      | @cons f e _ _ he _ ih =>
        rw [List.forall_mem_cons] at h hkeys ⊢
        obtain ⟨hkey, t, -, hvalue⟩ := he
        obtain ⟨s, hs⟩ := h.1.1
        exact ⟨⟨(s, t), by rw [hkey, hs]; rfl, by rw [hvalue]; rfl⟩, ih hkeys.2 h.2⟩
    obtain ⟨ys, hys⟩ := exists_forall₂.2 hread
    exact ⟨es, _, hes, ys, hys, rfl⟩

/-- Filled named texts have texts for names and values of a kind if their names become texts and
    the last value of each name becomes one of the kind. -/
theorem filledNames_iff {P : Value → Prop} {Q : String → Prop} {texts : List (String × String)}
    {gs : Entries} (hgs : List.Forall₂ (FillsTo context) (entriesOf texts) gs)
    (hvalue : ∀ s v, fillText context s = .ok v → (P v ↔ Q s)) :
    (∀ f ∈ Entries.ofList gs, f.1.IsText ∧ P f.2) ↔
      (∀ e ∈ texts, ∀ k, fillText context e.1 = .ok k → k.IsText) ∧
        ∀ e, Latest (fillText context ·.1) e texts → Q e.2 := by
  replace hgs : List.Forall₂ (fun e g => FillsTo context (.text e.1, .text e.2) g) texts gs :=
    List.forall₂_map_left_iff.1 hgs
  have hnames : (∀ e ∈ texts, ∀ k, fillText context e.1 = .ok k → k.IsText) ↔
      ∀ g ∈ gs, g.1.IsText :=
    forall_mem_congr (hgs.imp fun e g hg => by
      have hkey : fillText context e.1 = .ok g.1 := hg.key
      simp [hkey])
  have hvalues : List.Forall₂ (fun e g => fillText context e.1 = .ok g.1 ∧ (Q e.2 ↔ P g.2))
      texts gs :=
    hgs.imp fun e g hg => ⟨hg.key, (hvalue e.2 g.2 hg.value).symm⟩
  have hlatest := Latest.forall_congr (fun _ _ => Except.ok.inj) hvalues
  rw [hnames, hlatest]
  constructor
  · intro h
    have htexts : ∀ g ∈ gs, g.1.IsText := (Entries.isText_update.1 fun f hf => (h f hf).1).2
    exact ⟨htexts, fun g hg => (h g ((Entries.mem_ofList_text htexts).2 hg)).2⟩
  · rintro ⟨htexts, h⟩ f hf
    have hf := (Entries.mem_ofList_text htexts).1 hf
    exact ⟨htexts f hf.mem, h f hf⟩

section Json

variable (hcontext : IsJson context) (hparts : hasParts context = true)
include hcontext hparts

/-- What named texts were filled to can be read if the texts can be filled as named texts. -/
theorem namesFill_iff {texts : List (String × String)} {gs : Entries}
    (hgs : List.Forall₂ (FillsTo context) (entriesOf texts) gs) :
    NamesFill context texts ↔
      ∀ f ∈ Entries.ofList gs, f.1.IsText ∧ ∃ t, textOf f.2 = .ok t := by
  have hvalue : ∀ s v, fillText context s = .ok v →
      ((∃ t, textOf v = .ok t) ↔ ∀ w, StandsFor context s w → ¬ w.HoldsLong) := by
    intro s v hv
    have hfillable : Fillable context s := (fillText_eq_ok hcontext hparts).1 ⟨v, hv⟩
    rw [textOf_eq_ok (isJson_fillText hcontext hv),
      ← fillsAs_iff (v := .text s) (P := (¬ ·.HoldsLong)) hcontext hparts nofun hv]
    exact and_iff_right hfillable
  have hfills : ∀ e ∈ texts, ∃ g, FillsTo context (.text e.1, .text e.2) g := fun e he => by
    obtain ⟨g, -, hg⟩ := exists_of_mem_left hgs (List.mem_map_of_mem he)
    exact ⟨g, hg⟩
  have hname : ∀ e ∈ texts, FillsAs context IsText (.text e.1) ↔
      ∀ k, fillText context e.1 = .ok k → k.IsText := fun e he => by
    obtain ⟨g, hg⟩ := hfills e he
    have hkey : fillText context e.1 = .ok g.1 := hg.key
    rw [fillsAs_iff (v := .text e.1) hcontext hparts (fun t => ⟨t, rfl⟩) hkey]
    simp [hkey]
  rw [filledNames_iff hgs hvalue]
  constructor
  · exact fun h => ⟨fun e he => (hname e he).1 (h.names e he), h.written⟩
  · rintro ⟨hnames, hwritten⟩
    refine ⟨fun e he => (hname e he).2 (hnames e he), fun e he => ?_, hwritten⟩
    obtain ⟨g, hg⟩ := hfills e he
    exact (fillText_eq_ok hcontext hparts).1 ⟨g.2, hg.value⟩

theorem NamesFill.exists_filled {texts : List (String × String)} (h : NamesFill context texts) :
    ∃ gs, List.Forall₂ (FillsTo context) (entriesOf texts) gs := by
  refine exists_forall₂.2 (List.forall_mem_map.2 fun e he => ?_)
  refine (fillsTo_iff hcontext hparts).2 ⟨(h.names e he).imp ?_, ?_⟩
  · rintro _ ⟨s, rfl⟩
    rfl
  · exact (fillAll_eq_ok hcontext hparts).2 (.text (h.values e he))

theorem fillTexts_eq_ok {texts : List (String × String)} :
    (∃ es named, fillTexts context texts = .ok es ∧
        dictionary text (.dict es) = .accepted named) ↔ NamesFill context texts := by
  have hjson : ∀ {gs}, List.Forall₂ (FillsTo context) (entriesOf texts) gs →
      ∀ f ∈ Entries.ofList gs, IsJson f.1 := fun hgs => by
    refine Entries.key_update (List.forall_mem_nil _) fun g hg => ?_
    obtain ⟨e, he, hfills⟩ := exists_of_mem_left hgs.flip hg
    obtain ⟨e, -, rfl⟩ := List.mem_map.1 he
    exact isJson_fillText hcontext hfills.key
  constructor
  · rintro ⟨es, named, hfilled, hread⟩
    obtain ⟨filled, hentries, hwritten⟩ := bind_eq_ok.1 hfilled
    obtain ⟨gs, hgs, rfl⟩ := fillEntries_eq_ok.1 hentries
    exact (namesFill_iff hcontext hparts hgs).2
      ((read_textEntries (hjson hgs)).1 ⟨es, named, hwritten, hread⟩)
  · intro h
    obtain ⟨gs, hgs⟩ := h.exists_filled hcontext hparts
    obtain ⟨es, named, hwritten, hread⟩ :=
      (read_textEntries (hjson hgs)).2 ((namesFill_iff hcontext hparts hgs).1 h)
    exact ⟨es, named, bind_eq_ok.2 ⟨_, fillEntries_eq_ok.2 ⟨gs, hgs, rfl⟩, hwritten⟩, hread⟩

/-- A filled body is written, and so it can be filled if its text can be written. -/
theorem fillBody_eq_ok {body : Option String} :
    (∃ filled written read, fill context (.ofOption .text body) = .ok filled ∧
        bodyText filled = .ok written ∧ nullable text written = .accepted read) ↔
      ∀ t ∈ body, FillsAs context (¬ ·.HoldsLong) (.text t) := by
  cases body with
  | none => exact iff_of_true ⟨.null, .null, none, rfl, rfl, rfl⟩ fun t ht => by cases ht
  | some t =>
    have hwritten : ∀ {v}, IsJson v → ((∃ written read, bodyText v = .ok written ∧
        nullable text written = .accepted read) ↔ ¬ v.HoldsLong) := by
      intro v hv
      rw [← textOf_eq_ok hv, bodyText]
      cases hnull : v.isNull with
      | true =>
        cases v <;> cases hnull
        exact iff_of_true ⟨.null, none, rfl, rfl⟩ ⟨"", rfl⟩
      | false =>
        simp only [Bool.false_eq_true, if_false, map_eq_ok]
        constructor
        · rintro ⟨_, _, ⟨t, ht, -⟩, -⟩
          exact ⟨t, ht⟩
        · rintro ⟨t, ht⟩
          exact ⟨_, some t, ⟨t, ht, rfl⟩, rfl⟩
    simp only [Option.mem_some_iff, forall_eq']
    rw [← fill_as (P := (¬ ·.HoldsLong)) hcontext hparts nofun]
    constructor
    · rintro ⟨filled, written, read, hfilled, hrest⟩
      have hshort := (hwritten (isJson_fillText hcontext hfilled)).1 ⟨written, read, hrest⟩
      exact ⟨filled, hfilled, hshort⟩
    · rintro ⟨filled, hfilled, hshort⟩
      obtain ⟨written, read, hrest⟩ := (hwritten (isJson_fillText hcontext hfilled)).2 hshort
      exact ⟨filled, written, read, hfilled, hrest⟩

end Json

/-! ## URLs -/

/-- A URL can be put below a base: the base can be filled, and unless it is filled to nothing or
    the URL is absolute, it is a text that the URL can be joined to. -/
structure GoesBelow (context : Value) (base url : String) : Prop where
  fillable : Fillable context base
  joins : ∀ b u, fillText context base = .ok b → fillText context url = .ok (.text u) →
    b.truthy = true → Url.isAbsolute u.toList = true ∨
      ∃ t, b = .text t ∧ Url.Joins t.toList u.toList

theorem joinUrl_eq_ok {b : Value} (hb : IsJson b) (u : String) :
    (∃ joined, joinUrl (some b) (.text u) = .ok joined) ↔
      (b.truthy = true → Url.isAbsolute u.toList = true ∨
        ∃ t, b = .text t ∧ Url.Joins t.toList u.toList) := by
  cases htruthy : b.truthy with
  | false => simp [joinUrl, htruthy]
  | true =>
    cases hb with
    | text t =>
      have hjoins : Url.isAbsolute u.toList = true → Url.Joins t.toList u.toList :=
        fun h => .inr (.inl h)
      have hjoin : (∃ joined, joinUrl (some (.text t)) (.text u) = .ok joined) ↔
          ∃ joined, Url.join t.toList u.toList = .ok joined := by
        simp [joinUrl, htruthy, map_eq_ok]
      rw [hjoin, Url.join_eq_ok]
      simp [or_iff_right_of_imp hjoins]
    | _ => cases h : Url.isAbsolute u.toList <;> simp_all [joinUrl, Value.object]

/-- An absolute URL stays, whatever the base is. -/
theorem joinUrl_absolute (b : Value) {u : String} (h : Url.isAbsolute u.toList = true) :
    joinUrl (some b) (.text u) = .ok (.text u) := by
  cases htruthy : b.truthy with
  | false => simp [joinUrl, htruthy]
  | true => cases b <;> simp [joinUrl, htruthy, Url.join, h, Except.map]

theorem isText_of_joinUrl {root : Option Value} {url joined : Value} {read : String}
    (hurl : IsJson url) (h : joinUrl root url = .ok joined) (hread : text joined = .accepted read) :
    url.IsText := by
  cases hurl with
  | text s => exact ⟨s, rfl⟩
  | _ =>
    unfold joinUrl at h
    split at h
    · cases h
      cases hread
    · split at h
      · cases h
        cases hread
      · cases h

theorem isText_joined {root : Option Value} {u : String} {joined : Value}
    (h : joinUrl root (.text u) = .ok joined) : joined.IsText := by
  have hsame : ∀ {v : Value}, (.ok (.text u) : Except Fault Value) = .ok v → v.IsText :=
    fun h => ⟨u, (Except.ok.inj h).symm⟩
  unfold joinUrl at h
  split at h
  · exact hsame h
  · split at h
    · exact hsame h
    · split at h
      · obtain ⟨cs, -, rfl⟩ := map_eq_ok.1 h
        exact ⟨_, rfl⟩
      · split at h
        · exact hsame h
        · cases h
      · split at h
        · exact hsame h
        · cases h
      · cases h

/-- The base for a URL: that of the journey, or the one given besides. -/
def baseText (own given : Option String) : Option String :=
  (Text.given? own).or (Text.given? given)

theorem baseOf_eq (own given : Option String) :
    baseOf (.ofOption .text own) given = (baseText own given).map .text := by
  cases own with
  | none => rfl
  | some t =>
    by_cases h : t = ""
    · subst h
      rfl
    · have hempty : t.isEmpty = false := by simpa using h
      simp [baseOf, baseText, Text.given?, Value.ofOption, Value.truthy, Option.filter, hempty]

section Json

variable (hcontext : IsJson context) (hparts : hasParts context = true)
include hcontext hparts

theorem fillUrl_eq_ok {base : Option String} {url : String} :
    (∃ root filled joined read, fillRoot context (base.map .text) = .ok root ∧
        fillText context url = .ok filled ∧ joinUrl root filled = .ok joined ∧
        text joined = .accepted read) ↔
      FillsAs context IsText (.text url) ∧ ∀ b ∈ base, GoesBelow context b url := by
  constructor
  · rintro ⟨root, filled, joined, read, hroot, hfilled, hjoined, hread⟩
    have htext := isText_of_joinUrl (isJson_fillText hcontext hfilled) hjoined hread
    refine ⟨(fillsAs_iff (v := .text url) hcontext hparts (fun t => ⟨t, rfl⟩) hfilled).2 htext, ?_⟩
    obtain ⟨u, rfl⟩ := htext
    rintro b rfl
    obtain ⟨w, hw, rfl⟩ := map_eq_ok.1 hroot
    refine ⟨?_, fun w' u' hw' hu' => ?_⟩
    · exact (fillText_eq_ok hcontext hparts).1 ⟨w, hw⟩
    · obtain rfl := Except.ok.inj (hw.symm.trans hw')
      obtain rfl := Value.text.inj (Except.ok.inj (hfilled.symm.trans hu'))
      exact (joinUrl_eq_ok (isJson_fillText hcontext hw) u).1 ⟨joined, hjoined⟩
  · rintro ⟨hurl, hbase⟩
    obtain ⟨_, hfilled, u, rfl⟩ := (fillText_as hcontext hparts fun t => ⟨t, rfl⟩).2 hurl
    cases base with
    | none => exact ⟨none, _, _, u, rfl, hfilled, rfl, rfl⟩
    | some b =>
      obtain ⟨hfillable, hjoins⟩ := hbase b rfl
      obtain ⟨w, hw⟩ := (fillText_eq_ok hcontext hparts).2 hfillable
      obtain ⟨joined, hjoined⟩ :=
        (joinUrl_eq_ok (isJson_fillText hcontext hw) u).2 (hjoins w u hw hfilled)
      obtain ⟨read, rfl⟩ := isText_joined hjoined
      exact ⟨some w, _, _, read, map_eq_ok.2 ⟨w, hw, rfl⟩, hfilled, hjoined, rfl⟩

end Json

/-! ## Requests -/

/-- A request can be rendered: all its templates can be filled, those of the URL, of names and of
    keys become texts, and the URL can be put below its base. -/
structure Renderable (j : Journey) (s : Step) (given : Option String) (context : Value) : Prop where
  url : FillsAs context IsText (.text s.request.url)
  base : ∀ b ∈ baseText j.baseUrl given, GoesBelow context b s.request.url
  headers : NamesFill context (mergeHeaders j.defaults.headers s.request.headers)
  json : Completes context s.request.json
  keys : Keyed context s.request.json
  body : ∀ t ∈ s.request.body, FillsAs context (¬ ·.HoldsLong) (.text t)
  queryParams : NamesFill context s.request.queryParams

/-- A request whose parts can be filled is rendered. -/
theorem exists_render {j : Journey} {s : Step} {context : Entries} {base : Option Value}
    {q : RenderedRequest} (h : FilledFrom j s (.dict context) base q) :
    ∃ q', render j s context base = .ok q' ∧ q'.json = q.json := by
  obtain ⟨root, url, joined, hroot, hurl, hjoined, hreadUrl⟩ := h.url
  obtain ⟨headers, hheaders, hreadHeaders⟩ := h.headers
  obtain ⟨filled, body, hfilled, hbody, hreadBody⟩ := h.body
  obtain ⟨queryParams, hqueryParams, hreadQueryParams⟩ := h.queryParams
  have hdraft : draft j s (.dict context) base =
      .ok ⟨joined, headers, q.json, body, queryParams⟩ := by
    rw [draft_eq]
    simp only [hroot, hurl, hjoined, hheaders, hfilled, hbody, h.json, hqueryParams, bind,
      Except.bind]
  refine ⟨⟨s.id, s.request.method, q.url, q.headers, q.json, q.body, q.queryParams,
    s.request.timeout.or j.defaults.timeout⟩, ?_, rfl⟩
  rw [render, hdraft]
  refine bind_eq_ok.2 ⟨_, rfl, accepted_eq_ok.2 ?_⟩
  simp only [ofDraft, hreadUrl, hreadHeaders, hreadBody, hreadQueryParams]
  rfl

/-- A request is rendered from JSON variables, with texts for keys in its body, exactly if it can
    be. -/
theorem render_ok_iff {j : Journey} {s : Step} {given : Option String} {context : Entries}
    (hcontext : IsJson (.dict context)) :
    (∃ q, render j s context (baseOf (.ofOption .text j.baseUrl) given) = .ok q ∧
        TextKeyed q.json) ↔ Renderable j s given (.dict context) := by
  have hparts : hasParts (.dict context) = true := rfl
  rw [baseOf_eq]
  constructor
  · rintro ⟨q, hq, hkeys⟩
    have h := render_ok hq
    obtain ⟨root, filled, joined, hroot, hfilled, hjoined, hread⟩ := h.url
    -- Each field of a request has its own `_eq_ok` lemma; both directions only collect them.
    obtain ⟨hurl, hbase⟩ := (fillUrl_eq_ok hcontext hparts).1
      ⟨root, filled, joined, _, hroot, hfilled, hjoined, hread⟩
    obtain ⟨es, hes, hheaders⟩ := h.headers
    obtain ⟨fs, hfs, hqueryParams⟩ := h.queryParams
    obtain ⟨body, written, hbody, hwritten, hreadBody⟩ := h.body
    exact {
      url := hurl
      base := hbase
      headers := (fillTexts_eq_ok hcontext hparts).1 ⟨es, _, hes, hheaders⟩
      json := (fillAll_eq_ok hcontext hparts).1 ⟨_, h.json⟩
      keys := (textKeyed_fillAll hcontext hparts h.json).1 hkeys
      body := (fillBody_eq_ok hcontext hparts).1 ⟨body, written, _, hbody, hwritten, hreadBody⟩
      queryParams := (fillTexts_eq_ok hcontext hparts).1 ⟨fs, _, hfs, hqueryParams⟩ }
  · intro h
    obtain ⟨root, filled, joined, url, hroot, hfilled, hjoined, hread⟩ :=
      (fillUrl_eq_ok hcontext hparts).2 ⟨h.url, h.base⟩
    obtain ⟨es, headers, hes, hheaders⟩ := (fillTexts_eq_ok hcontext hparts).2 h.headers
    obtain ⟨fs, queryParams, hfs, hqueryParams⟩ :=
      (fillTexts_eq_ok hcontext hparts).2 h.queryParams
    obtain ⟨body, written, read, hbody, hwritten, hreadBody⟩ :=
      (fillBody_eq_ok hcontext hparts).2 h.body
    obtain ⟨json, hjson⟩ := (fillAll_eq_ok hcontext hparts).2 h.json
    have hfilledFrom : FilledFrom j s (.dict context) ((baseText j.baseUrl given).map .text)
        ⟨s.id, s.request.method, url, headers, json, read, queryParams, none⟩ :=
      { url := ⟨root, filled, joined, hroot, hfilled, hjoined, hread⟩
        headers := ⟨es, hes, hheaders⟩
        json := hjson
        body := ⟨body, written, hbody, hwritten, hreadBody⟩
        queryParams := ⟨fs, hfs, hqueryParams⟩ }
    obtain ⟨q, hq, hjson'⟩ := exists_render hfilledFrom
    refine ⟨q, hq, ?_⟩
    rw [hjson']
    exact (textKeyed_fillAll hcontext hparts hjson).2 h.keys

/-! ## Tokens in every place -/

/-- A step with a token for its URL, a header, a part of its body and a query parameter. -/
def tokenStep (id url : String) : Step :=
  { Journey.plainStep id none with
    request := ⟨"POST", url, [("x-retry", "##VAR:unquoted:retry##")],
      .object [("items", .text "##VAR:unquoted:items##")], none,
      [("page", "##VAR:unquoted:page##")], none, none⟩ }

def tokenJourney : Journey :=
  Journey.plainJourney
    [tokenStep "order" "##VAR:unquoted:url##", tokenStep "retry" "##VAR:unquoted:retry##"]

/-- A text, a truth value and a list; there is no page. -/
def tokenVariables : List (String × Value) :=
  [("url", .text "http://shop.test/orders"), ("retry", .bool true),
    ("items", .list [.int 1, .null])]

def tokenContext : Entries :=
  tokenVariables.map fun (k, v) => (.text k, v)

theorem isJson_tokenContext : IsJson (.dict tokenContext) := by
  change IsJson (.object tokenVariables)
  refine .object (by decide) ?_
  simp only [tokenVariables, List.forall_mem_cons]
  refine ⟨.text _, .bool _, .list ?_, nofun⟩
  simp only [List.forall_mem_cons]
  exact ⟨.int 1, .null, nofun⟩

theorem fill_retry :
    fillText (.dict tokenContext) "##VAR:unquoted:retry##" = .ok (.bool true) := by
  cbv

theorem fillTexts_single {context v : Value} {k t s : String} (hinert : Inert [] k.toList)
    (htoken : tokenBody? k.toList = none) (hv : fillText context s = .ok v)
    (ht : textOf v = .ok t) : fillTexts context [(k, s)] = .ok [(.text k, .text t)] := by
  have hk := fillText_inert context hinert htoken
  simp [fillTexts, fillEntries, fill, fillAll, hk, hv, bind, Except.bind, Value.hashable,
    Entries.insert, textEntries, ht]

theorem filledFrom_tokenStep : FilledFrom tokenJourney (tokenStep "order" "##VAR:unquoted:url##")
    (.dict tokenContext) (some (.text "http://api.test"))
    ⟨"order", "POST", "http://shop.test/orders", [("x-retry", "true")],
      .object [("items", .list [.int 1, .null])], none, [("page", "")], none⟩ where
  url := by
    have hbase : fillText (.dict tokenContext) "http://api.test" = .ok (.text "http://api.test") :=
      fillText_inert _ (by decide) (by decide)
    have hurl : fillText (.dict tokenContext) "##VAR:unquoted:url##" =
        .ok (.text "http://shop.test/orders") := by cbv
    have habsolute : Url.isAbsolute "http://shop.test/orders".toList = true := by decide
    exact ⟨some (.text "http://api.test"), _, _, map_eq_ok.2 ⟨_, hbase, rfl⟩, hurl,
      joinUrl_absolute _ habsolute, rfl⟩
  headers := ⟨_, fillTexts_single (by decide) (by decide) fill_retry rfl, by cbv⟩
  json := by
    have hitems : fillText (.dict tokenContext) "##VAR:unquoted:items##" =
        .ok (.list [.int 1, .null]) := by cbv
    have hkey : fillText (.dict tokenContext) "items" = .ok (.text "items") :=
      fillText_inert _ (by decide) (by decide)
    simp [tokenStep, Value.object, fillAll, fillEntries, fill, hkey, hitems, bind, Except.bind,
      Value.hashable, Entries.insert]
  body := ⟨.null, .null, rfl, rfl, rfl⟩
  queryParams := by
    have hpage : fillText (.dict tokenContext) "##VAR:unquoted:page##" = .ok .null := by cbv
    exact ⟨_, fillTexts_single (by decide) (by decide) hpage rfl, by cbv⟩

/-- Tokens in other places than the URL take any value. -/
theorem renderable_tokenStep : IsJson (.dict tokenContext) ∧
    Renderable tokenJourney (tokenStep "order" "##VAR:unquoted:url##") (some "http://api.test")
      (.dict tokenContext) := by
  obtain ⟨q, hq, hjson⟩ := exists_render filledFrom_tokenStep
  refine ⟨isJson_tokenContext, (render_ok_iff isJson_tokenContext).1 ⟨q, hq, ?_⟩⟩
  have hbody : IsJson (.object [("items", .list [.int 1, .null])]) := by
    rw [Value.isJson_object_iff]
    simp [Value.isJson_list_iff, IsJson.int, IsJson.null]
  rw [hjson]
  exact hbody.textKeyed

/-- A token for a truth value as the URL, and there is no request. -/
theorem render_not_total : ¬ ∀ (v : Value) (j : Journey), Journey.read v = .accepted j →
    ∀ s ∈ j.steps, ∀ context : Entries, IsJson (.dict context) → ∀ given : Option String,
      ∃ q, render j s context (baseOf (.ofOption .text j.baseUrl) given) = .ok q := by
  intro h
  have hread : Journey.read tokenJourney.toValue = .accepted tokenJourney := by cbv
  obtain ⟨q, hq⟩ := h _ _ hread (tokenStep "retry" "##VAR:unquoted:retry##")
    (List.mem_cons_of_mem _ List.mem_cons_self) tokenContext isJson_tokenContext none
  obtain ⟨root, url, joined, -, hurl, hjoined, htext⟩ := (render_ok hq).url
  obtain rfl := Except.ok.inj (hurl.symm.trans fill_retry)
  obtain ⟨t, ht⟩ := isText_of_joinUrl (.bool true) hjoined htext
  cases ht

/-! ## Requests without typed tokens -/

/-- No typed token stands where only a text can: as the URL, its base, a name or a key. -/
structure Untyped (j : Journey) (s : Step) (given : Option String) : Prop where
  url : ∀ path, ¬ IsTyped s.request.url path
  base : ∀ b ∈ baseText j.baseUrl given, ∀ path, ¬ IsTyped b path
  headers : ∀ e ∈ mergeHeaders j.defaults.headers s.request.headers, ∀ path, ¬ IsTyped e.1 path
  queryParams : ∀ e ∈ s.request.queryParams, ∀ path, ¬ IsTyped e.1 path
  keys : ∀ k, Value.HoldsKey k s.request.json → ∃ t, k = .text t ∧ ∀ path, ¬ IsTyped t path

theorem namesFill_of_short (hshort : ¬ context.HoldsLong) {texts : List (String × String)}
    (hpaths : ∀ path ∈ namedPaths texts, ShortPositions path)
    (huntyped : ∀ e ∈ texts, ∀ path, ¬ IsTyped e.1 path) : NamesFill context texts where
  names e he := by
    refine fillsAs_of_untyped (fillable_of_short hshort fun path hpath => ?_) (huntyped e he)
    exact hpaths path (mem_entryPaths.2 ⟨_, List.mem_map_of_mem he, .inl hpath⟩)
  values e he := fillable_of_short hshort fun path hpath => by
    refine hpaths path (mem_entryPaths.2 ⟨_, List.mem_map_of_mem he, .inr ?_⟩)
    rwa [valuePaths]
  written _ _ _ hstands := hstands.not_holdsLong hshort

/-- Without typed tokens where only a text can stand, and from variables without long integers, a
    request can be rendered as long as the positions in its paths are short and its URL can be
    joined to its base. -/
theorem renderable_of_untyped {j : Journey} {s : Step} {given : Option String}
    (hshort : ¬ context.HoldsLong)
    (hpaths : ∀ path ∈ requestPaths j s (baseOf (.ofOption .text j.baseUrl) given),
      ShortPositions path)
    (h : Untyped j s given)
    (hjoins : ∀ b ∈ baseText j.baseUrl given, ∀ t u, fillText context b = .ok (.text t) →
      fillText context s.request.url = .ok (.text u) → Url.Joins t.toList u.toList) :
    Renderable j s given context := by
  rw [baseOf_eq] at hpaths
  simp only [requestPaths, List.forall_mem_append] at hpaths
  obtain ⟨⟨⟨⟨⟨hbase, hbody⟩, hurl⟩, hheaders⟩, hjson⟩, hqueryParams⟩ := hpaths
  obtain ⟨hcompletes, hkeyed⟩ := completes_of_short hshort hjson h.keys
  refine {
    url := fillsAs_of_untyped (fillable_of_short hshort hurl) h.url
    base := fun b hb => ?_
    headers := namesFill_of_short hshort hheaders h.headers
    json := hcompletes
    keys := hkeyed
    body := fun t ht => ?_
    queryParams := namesFill_of_short hshort hqueryParams h.queryParams }
  · rw [Option.mem_def] at hb
    rw [hb] at hbase
    refine ⟨fillable_of_short hshort hbase, fun w u hw hu _ => ?_⟩
    obtain ⟨t, rfl⟩ := (fillText_untyped context (h.base b hb)).2 w hw
    exact .inr ⟨t, rfl, hjoins b hb t u hw hu⟩
  · rw [Option.mem_def] at ht
    rw [ht] at hbody
    exact ⟨fillable_of_short hshort hbody, fun v hv => hv.not_holdsLong hshort⟩

end ApiJourney.RenderedRequest
