-- SUMMARY: What a rendered request is made of, part by part.
import ApiJourney.Proofs.Schema.Acceptance
import ApiJourney.Proofs.Template.Object
import ApiJourney.Request.Rendering

/-!
# Rendered requests

Each part of a rendered request comes from the template of that part, filled from the one
context. Headers and query parameters are filled in order, and keep their names where these are
no templates.
-/

namespace ApiJourney.RenderedRequest

open Schema Template

variable {j : Journey} {s : Step} {context : Entries} {base : Option Value}

/-! ## Named texts -/

theorem textEntries_eq_ok {es : List (Value × Value)} {fs : Entries} :
    textEntries es = .ok fs ↔
      List.Forall₂ (fun e f => f.1 = e.1 ∧ ∃ t, textOf e.2 = .ok t ∧ f.2 = .text t) es fs := by
  induction es generalizing fs with
  | nil =>
    rw [textEntries, Except.ok.injEq, List.forall₂_nil_left_iff, eq_comm]
  | cons e es ih =>
    obtain ⟨k, v⟩ := e
    rw [textEntries, bind_eq_ok]
    constructor
    · rintro ⟨t, ht, h⟩
      obtain ⟨more, hmore, h⟩ := bind_eq_ok.1 h
      cases h
      exact .cons ⟨rfl, t, ht, rfl⟩ (ih.1 hmore)
    · intro h
      cases h with
      | @cons _ f _ more hf hmore =>
        obtain ⟨key, value⟩ := f
        obtain ⟨rfl, t, ht, rfl⟩ := hf
        exact ⟨t, ht, bind_eq_ok.2 ⟨more, ih.2 hmore, rfl⟩⟩

/-- The entries of named texts. -/
def entriesOf (texts : List (String × String)) : Entries :=
  texts.map fun (k, v) => (.text k, .text v)

theorem distinct_entriesOf {texts : List (String × String)} (h : (texts.map Prod.fst).Nodup) :
    (entriesOf texts).Distinct := by
  induction texts with
  | nil => trivial
  | cons e texts ih =>
    obtain ⟨k, v⟩ := e
    rw [List.map_cons, List.nodup_cons] at h
    refine ⟨Entries.find?_eq_none.2 fun e he => ?_, ih h.2⟩
    obtain ⟨e', he', rfl⟩ := List.mem_map.1 he
    rw [Value.sameKey_text, beq_iff_eq]
    rintro rfl
    exact h.1 (List.mem_map.2 ⟨e', he', rfl⟩)

/-- Named texts with distinct names are read from their entries. -/
theorem read_entriesOf {texts : List (String × String)} (h : (texts.map Prod.fst).Nodup) :
    dictionary text (.dict (entriesOf texts)) = .accepted texts := by
  have hread : entries text (entriesOf texts) = .accepted texts := by
    rw [entries_eq_accepted, entriesOf, List.forall₂_map_left_iff]
    exact List.forall₂_same.2 fun e _ => ⟨rfl, rfl⟩
  rw [dictionary, hread]
  exact congrArg Verdict.accepted (lastOfEach_of_nodup h)

/-- A named text and what it becomes under the same name. -/
def Renders (context : Value) (template named : String × String) : Prop :=
  named.1 = template.1 ∧ ∃ w, fillText context template.2 = .ok w ∧ textOf w = .ok named.2

theorem renders_of_parts {context : Value} {texts read : List (String × String)}
    {filled es : Entries}
    (hfilled : List.Forall₂ (fun e f => f.1 = e.1 ∧ fillAll context e.2 = .ok f.2)
      (entriesOf texts) filled)
    (htexts : List.Forall₂ (fun e f => f.1 = e.1 ∧ ∃ t, textOf e.2 = .ok t ∧ f.2 = .text t)
      filled es)
    (hread : List.Forall₂ (fun e y => text e.1 = .accepted y.1 ∧ text e.2 = .accepted y.2)
      es read) :
    List.Forall₂ (Renders context) texts read := by
  induction texts generalizing filled es read with
  | nil =>
    cases hfilled
    cases htexts
    cases hread
    exact .nil
  | cons e texts ih =>
    obtain ⟨k, v⟩ := e
    cases hfilled with | @cons _ f _ fs hf hfs =>
    cases htexts with | @cons _ t _ ts ht hts =>
    cases hread with | @cons _ q _ qs hq hqs =>
    obtain ⟨key, w⟩ := f
    obtain ⟨key', value⟩ := t
    obtain ⟨name, written⟩ := q
    obtain ⟨rfl, hw⟩ := hf
    obtain ⟨rfl, written', hwritten, rfl⟩ := ht
    obtain ⟨hname, hvalue⟩ := hq
    cases hname
    cases hvalue
    exact .cons ⟨rfl, w, hw, hwritten⟩ (ih hfs hts hqs)

theorem names_of_renders {context : Value} {texts named : List (String × String)}
    (h : List.Forall₂ (Renders context) texts named) :
    named.map Prod.fst = texts.map Prod.fst := by
  induction h with
  | nil => rfl
  | cons he _ ih => rw [List.map_cons, List.map_cons, he.1, ih]

/-- Named texts whose names are no templates are filled one by one. -/
theorem renders_of_fillTexts {context : Value} {texts named : List (String × String)}
    {es : Entries} (hnodup : (texts.map Prod.fst).Nodup)
    (hnames : ∀ e ∈ texts, fillText context e.1 = .ok (.text e.1))
    (h : fillTexts context texts = .ok es)
    (hread : dictionary text (.dict es) = .accepted named) :
    List.Forall₂ (Renders context) texts named := by
  obtain ⟨filled, hfilled, htexts⟩ := bind_eq_ok.1 h
  obtain ⟨read, hentries, rfl⟩ := Verdict.map_eq_accepted.1 hread
  have hkeys : ∀ e ∈ entriesOf texts, fill context e.1 = .ok e.1 := by
    intro e he
    obtain ⟨e', he', rfl⟩ := List.mem_map.1 he
    exact hnames e' he'
  have hall : List.Forall₂ (Renders context) texts read :=
    renders_of_parts (forall₂_fillEntries (distinct_entriesOf hnodup) hkeys hfilled)
      (textEntries_eq_ok.1 htexts) (entries_eq_accepted.1 hentries)
  rwa [lastOfEach_of_nodup]
  rwa [names_of_renders hall]

/-! ## Requests -/

/-- The base of the URL filled, if there is one. -/
def fillRoot (context : Value) : Option Value → Except Fault (Option Value)
  | none => .ok none
  | some base => (fill context base).map some

theorem draft_eq (j : Journey) (s : Step) (context : Value) (base : Option Value) :
    draft j s context base = (do
      let root ← fillRoot context base
      let body ← fill context (.ofOption .text s.request.body)
      let url ← fillText context s.request.url
      let url ← joinUrl root url
      let headers ← fillTexts context (mergeHeaders j.defaults.headers s.request.headers)
      let json ← fillAll context s.request.json
      let body ← bodyText body
      let queryParams ← fillTexts context s.request.queryParams
      .ok ⟨url, headers, json, body, queryParams⟩) := by
  cases base <;> rfl

/-- Of the base, only how URLs are joined to it tells in a draft. -/
theorem draft_eq_join (j : Journey) (s : Step) (context : Value) (base : Option Value) :
    draft j s context base = (do
      let join ← (fillRoot context base).map joinUrl
      let body ← fill context (.ofOption .text s.request.body)
      let url ← fillText context s.request.url
      let url ← join url
      let headers ← fillTexts context (mergeHeaders j.defaults.headers s.request.headers)
      let json ← fillAll context s.request.json
      let body ← bodyText body
      let queryParams ← fillTexts context s.request.queryParams
      .ok ⟨url, headers, json, body, queryParams⟩) := by
  rw [draft_eq]
  cases fillRoot context base <;> rfl

theorem draft_congr {j j' : Journey} {context : Value} {base base' : Option Value}
    (hbase : (fillRoot context base).map joinUrl = (fillRoot context base').map joinUrl)
    (hheaders : fillTexts context (mergeHeaders j.defaults.headers s.request.headers) =
      fillTexts context (mergeHeaders j'.defaults.headers s.request.headers)) :
    draft j s context base = draft j' s context base' := by
  rw [draft_eq_join, draft_eq_join, hbase, hheaders]

/-- A request was filled from a context, part by part. -/
structure FilledFrom (j : Journey) (s : Step) (context : Value) (base : Option Value)
    (q : RenderedRequest) : Prop where
  url : ∃ root url joined, fillRoot context base = .ok root ∧
    fillText context s.request.url = .ok url ∧ joinUrl root url = .ok joined ∧
    text joined = .accepted q.url
  headers : ∃ es, fillTexts context (mergeHeaders j.defaults.headers s.request.headers) = .ok es ∧
    dictionary text (.dict es) = .accepted q.headers
  json : fillAll context s.request.json = .ok q.json
  body : ∃ filled written, fill context (.ofOption .text s.request.body) = .ok filled ∧
    bodyText filled = .ok written ∧ nullable text written = .accepted q.body
  queryParams : ∃ es, fillTexts context s.request.queryParams = .ok es ∧
    dictionary text (.dict es) = .accepted q.queryParams

theorem render_ok {q : RenderedRequest} (h : render j s context base = .ok q) :
    FilledFrom j s (.dict context) base q := by
  obtain ⟨d, hdraft, h⟩ := bind_eq_ok.1 h
  have hread := accepted_eq_ok.1 h
  simp only [ofDraft, Verdict.seq_eq_accepted, Verdict.map_eq_accepted,
    Verdict.under_eq_accepted] at hread
  obtain ⟨_, queryParams, ⟨_, body, ⟨_, headers, ⟨url, hurl, rfl⟩, hheaders, rfl⟩, hbody, rfl⟩,
    hqueryParams, rfl⟩ := hread
  have hdraft := orFault_eq_ok.1 hdraft
  rw [draft_eq] at hdraft
  obtain ⟨root, hroot, hdraft⟩ := bind_eq_ok.1 hdraft
  obtain ⟨filledBody, hfilledBody, hdraft⟩ := bind_eq_ok.1 hdraft
  obtain ⟨filledUrl, hfilledUrl, hdraft⟩ := bind_eq_ok.1 hdraft
  obtain ⟨joined, hjoined, hdraft⟩ := bind_eq_ok.1 hdraft
  obtain ⟨headerEntries, hheaderEntries, hdraft⟩ := bind_eq_ok.1 hdraft
  obtain ⟨json, hjson, hdraft⟩ := bind_eq_ok.1 hdraft
  obtain ⟨written, hwritten, hdraft⟩ := bind_eq_ok.1 hdraft
  obtain ⟨queryEntries, hqueryEntries, hdraft⟩ := bind_eq_ok.1 hdraft
  cases hdraft
  exact {
    url := ⟨root, filledUrl, joined, hroot, hfilledUrl, hjoined, hurl⟩
    headers := ⟨headerEntries, hheaderEntries, hheaders⟩
    json := hjson
    body := ⟨filledBody, written, hfilledBody, hwritten, hbody⟩
    queryParams := ⟨queryEntries, hqueryEntries, hqueryParams⟩ }

end ApiJourney.RenderedRequest
