-- SUMMARY: What a virtual user's variables hold in a run, and how its requests show them.
import ApiJourney.Proofs.Extraction.Bindings
import ApiJourney.Proofs.Flow.Commit
import ApiJourney.Proofs.Request.Rendering
import ApiJourney.Proofs.Variables.Visibility
import ApiJourney.User.Basic

/-!
# Variables of virtual users

A variable that a step has bound keeps its value until another step binds it. Under a name that
templates see by itself, a placeholder of that name becomes the text of the value in each
request that is prepared meanwhile.
-/

namespace ApiJourney.VirtualUser

open Template Text Variables RenderedRequest

variable {c : Course} {u u' : VirtualUser} {id n : String} {s : Step} {r : Response} {v : Value}

/-! ## Steps -/

theorem step_eq_ok : c.step id = .ok s ↔ c.journey.step? id = some s := by
  unfold Course.step
  cases c.journey.step? id <;> simp

/-- What a response leaves of the variables: those of its extractions are put over the others,
    unless an extraction ends with a fault. -/
theorem respond_bindings (h : c.step id = .ok s) (u : VirtualUser) (r : Response) :
    (u.respond c id r).2.state.bindings =
      match Extraction.runAll r s.extract with
      | .ok extracted => u.state.bindings.update extracted.bindings
      | .error _ => u.state.bindings := by
  unfold respond
  rw [h]
  dsimp only
  unfold Journey.process
  cases Extraction.runAll r s.extract with
  | error f => rfl
  | ok extracted =>
    dsimp only
    cases c.journey.transition s r <;> rfl

theorem distinct_respond (h : c.step id = .ok s) (hu : u.state.bindings.Distinct) :
    (u.respond c id r).2.state.bindings.Distinct := by
  rw [respond_bindings h]
  cases Extraction.runAll r s.extract with
  | error f => exact hu
  | ok extracted => exact Entries.distinct_update hu _

/-- A name is bound to what the extractions of the step bind it to. -/
theorem get?_respond_of_binds (h : c.step id = .ok s) (hbinds : Extraction.Binds s.extract r n v) :
    (u.respond c id r).2.state.bindings.get? n = some v := by
  obtain ⟨⟨extracted, hextracted⟩, hlast⟩ := hbinds
  obtain ⟨hdistinct, hget⟩ := Extraction.runAll_bindings hextracted
  have hfound : extracted.bindings.get? n = some v := by
    rw [hget, Extraction.lastFound?_eq_some.2 hlast]
  rw [respond_bindings h, hextracted]
  dsimp only
  rw [Entries.get?, Entries.find?_update hdistinct, ← Entries.get?, hfound, Option.some_or]

/-- A name that no extraction of the step binds stays as it is. -/
theorem get?_respond_of_not_binds (h : c.step id = .ok s)
    (hnot : ∀ w, ¬ Extraction.Binds s.extract r n w) :
    (u.respond c id r).2.state.bindings.get? n = u.state.bindings.get? n := by
  rw [respond_bindings h]
  cases hextracted : Extraction.runAll r s.extract with
  | error f => rfl
  | ok extracted =>
    obtain ⟨hdistinct, hget⟩ := Extraction.runAll_bindings hextracted
    have hfound : extracted.bindings.get? n = none := by
      rw [hget]
      cases hlast : Extraction.lastFound? r n s.extract with
      | none => rfl
      | some w => exact (hnot w ⟨⟨_, hextracted⟩, Extraction.lastFound?_eq_some.1 hlast⟩).elim
    dsimp only
    rw [Entries.get?, Entries.find?_update hdistinct, ← Entries.get?, hfound, Option.none_or]
    rfl

/-! ## Runs -/

/-- A response of a kind is taken to a step, whether it is due or not. -/
inductive Answered (c : Course) (Allowed : Step → Response → Prop) :
    VirtualUser → VirtualUser → Prop where
  | respond {u : VirtualUser} {id : String} {s : Step} {r : Response} :
      c.step id = .ok s →
      Allowed s r →
      Answered c Allowed u (u.respond c id r).2

/-- Responses taken one after the other. -/
def Run (c : Course) : VirtualUser → VirtualUser → Prop :=
  Relation.ReflTransGen (Answered c fun _ _ => True)

/-- As before, with responses from which a name is not bound. -/
def RunWithout (c : Course) (n : String) : VirtualUser → VirtualUser → Prop :=
  Relation.ReflTransGen (Answered c fun s r => ∀ v, ¬ Extraction.Binds s.extract r n v)

theorem distinct_start (j : Journey) (id : String) (context : Option UserContext)
    (environment : Entries) : (start j id context environment).state.bindings.Distinct :=
  distinct_mergeAll _

theorem Run.distinct (h : Run c u u') (hu : u.state.bindings.Distinct) :
    u'.state.bindings.Distinct := by
  induction h with
  | refl => exact hu
  | tail _ hstep ih =>
    cases hstep with
    | respond hs _ => exact distinct_respond hs ih

theorem RunWithout.keeps (h : RunWithout c n u u') (hu : u.state.bindings.Distinct) :
    u'.state.bindings.Distinct ∧ u'.state.bindings.get? n = u.state.bindings.get? n := by
  induction h with
  | refl => exact ⟨hu, rfl⟩
  | tail _ hstep ih =>
    cases hstep with
    | respond hs hnot =>
      exact ⟨distinct_respond hs ih.1, (get?_respond_of_not_binds hs hnot).trans ih.2⟩

/-! ## Requests -/

/-- What the templates of a user are filled from. -/
def templateContext (u : VirtualUser) (fresh : Fresh) : Value :=
  .dict (Variables.context fresh [u.state.bindings])

theorem prepare_ok {fresh : Fresh} {q : RenderedRequest} (hs : c.step id = .ok s)
    (h : u.prepare c fresh id = .ok q) :
    FilledFrom c.journey s (u.templateContext fresh) (baseOf c.loaded.base c.base) q := by
  unfold prepare at h
  rw [hs] at h
  exact render_ok h

/-- The placeholder of a name as a template of its own. -/
def placeholderOf (n : String) : String :=
  String.ofList (placeholder n.toList)

/-- Named texts whose names are distinct and no templates. -/
structure PlainNames (context : Value) (texts : List (String × String)) : Prop where
  nodup : (texts.map Prod.fst).Nodup
  literal : ∀ e ∈ texts, fillText context e.1 = .ok (.text e.1)

/-- The requests of a user show a value where a name stands in a placeholder. -/
structure Shows (c : Course) (u : VirtualUser) (n : String) (v : Value) : Prop where
  /-- Wherever the placeholder stands in a template that is no variable token. -/
  text : ∀ fresh before after, tokenBody? (before ++ (placeholder n.toList ++ after)) = none →
    fillText (u.templateContext fresh)
        (String.ofList (before ++ (placeholder n.toList ++ after))) = (do
      let front ← fillFrom (u.templateContext fresh) 0 before
      let t ← textOf v
      let back ← fillFrom (u.templateContext fresh) 0 after
      .ok (.text (String.ofList (front ++ (t.toList ++ back)))))
  url : ∀ fresh id s q, c.step id = .ok s → u.prepare c fresh id = .ok q →
    s.request.url = placeholderOf n → ∃ t root joined, textOf v = .ok t ∧
      fillRoot (u.templateContext fresh) (baseOf c.loaded.base c.base) = .ok root ∧
      joinUrl root (.text t) = .ok joined ∧ Schema.text joined = .accepted q.url
  headers : ∀ fresh id s q k, c.step id = .ok s → u.prepare c fresh id = .ok q →
    PlainNames (u.templateContext fresh)
      (mergeHeaders c.journey.defaults.headers s.request.headers) →
    (k, placeholderOf n) ∈ mergeHeaders c.journey.defaults.headers s.request.headers →
    ∃ t, textOf v = .ok t ∧ (k, t) ∈ q.headers
  json : ∀ fresh id s q path, c.step id = .ok s → u.prepare c fresh id = .ok q →
    KeysStay (u.templateContext fresh) s.request.json path →
    s.request.json.at? path = some (.text (placeholderOf n)) →
    ∃ t, textOf v = .ok t ∧ q.json.at? path = some (.text t)
  body : ∀ fresh id s q, c.step id = .ok s → u.prepare c fresh id = .ok q →
    s.request.body = some (placeholderOf n) → ∃ t, textOf v = .ok t ∧ q.body = some t
  queryParams : ∀ fresh id s q k, c.step id = .ok s → u.prepare c fresh id = .ok q →
    PlainNames (u.templateContext fresh) s.request.queryParams →
    (k, placeholderOf n) ∈ s.request.queryParams →
    ∃ t, textOf v = .ok t ∧ (k, t) ∈ q.queryParams

/-- A named text that is the placeholder of a name becomes the text of the value. -/
theorem mem_of_renders {context : Value} {texts named : List (String × String)} {k : String}
    (hplain : ∀ w, fillText context (placeholderOf n) = .ok w ↔ ∃ t, textOf v = .ok t ∧ w = .text t)
    (h : List.Forall₂ (Renders context) texts named) (hk : (k, placeholderOf n) ∈ texts) :
    ∃ t, textOf v = .ok t ∧ (k, t) ∈ named := by
  obtain ⟨⟨k', t'⟩, hmem, rfl, w, hw, ht'⟩ := exists_of_mem_left h hk
  obtain ⟨t, ht, rfl⟩ := (hplain w).1 hw
  cases ht'
  exact ⟨t', ht, hmem⟩

theorem shows_of_fillHole (hcontent : Content n.toList)
    (hhole : ∀ fresh, fillHole (u.templateContext fresh) n.toList =
      (textOf v).map String.toList) : Shows c u n v := by
  -- A template that is the placeholder alone is filled by the text of the value and nothing else.
  have hplain : ∀ fresh w, fillText (u.templateContext fresh) (placeholderOf n) = .ok w ↔
      ∃ t, textOf v = .ok t ∧ w = .text t := by
    intro fresh w
    rw [placeholderOf, fillText_placeholder _ hcontent, hhole]
    cases textOf v <;> simp [Except.map, eq_comm]
  exact {
    text := by
      intro fresh before after htoken
      rw [fillText_of_no_token htoken, fillFrom_around _ hcontent, hhole]
      cases fillFrom (u.templateContext fresh) 0 before <;> cases textOf v <;>
        cases fillFrom (u.templateContext fresh) 0 after <;> rfl
    url := by
      intro fresh id s q hs hq hurl
      obtain ⟨root, url, joined, hroot, hfilled, hjoined, hread⟩ := (prepare_ok hs hq).url
      rw [hurl] at hfilled
      obtain ⟨t, ht, rfl⟩ := (hplain fresh url).1 hfilled
      exact ⟨t, root, joined, ht, hroot, hjoined, hread⟩
    headers := by
      intro fresh id s q k hs hq hnames hk
      obtain ⟨es, hes, hread⟩ := (prepare_ok hs hq).headers
      exact mem_of_renders (hplain fresh)
        (renders_of_fillTexts hnames.nodup hnames.literal hes hread) hk
    json := by
      intro fresh id s q path hs hq hstay hat
      obtain ⟨w, hw, hwpath⟩ := fillAll_at? hstay hat (prepare_ok hs hq).json
      obtain ⟨t, ht, rfl⟩ := (hplain fresh w).1 (by rwa [fillAll] at hw)
      exact ⟨t, ht, hwpath⟩
    body := by
      intro fresh id s q hs hq hbody
      obtain ⟨filled, written, hfilled, hwritten, hread⟩ := (prepare_ok hs hq).body
      rw [hbody] at hfilled
      obtain ⟨t, ht, rfl⟩ := (hplain fresh filled).1 hfilled
      cases hwritten
      exact ⟨t, ht, (Schema.Verdict.accepted_inj.1 hread).symm⟩
    queryParams := by
      intro fresh id s q k hs hq hnames hk
      obtain ⟨es, hes, hread⟩ := (prepare_ok hs hq).queryParams
      exact mem_of_renders (hplain fresh)
        (renders_of_fillTexts hnames.nodup hnames.literal hes hread) hk }

/-- Once a run has bound a name that is visible and can be written in a placeholder, all requests
    show the value there until a response binds the name again. -/
theorem bound_variable_shows {context : Option UserContext} {environment : Entries}
    {user stepId : String} (hrun : Run c (start c.journey user context environment) u)
    (hs : c.step stepId = .ok s) (hbinds : Extraction.Binds s.extract r n v)
    (hkeyed : v.isKeyed = true) (hlater : RunWithout c n (u.respond c stepId r).2 u')
    (hwritable : Writable n) (hvisible : Visible n) : Shows c u' n v := by
  have hdistinct := hrun.distinct (distinct_start c.journey user context environment)
  obtain ⟨hdistinct', hkept⟩ := hlater.keeps (distinct_respond hs hdistinct)
  rw [get?_respond_of_binds hs hbinds] at hkept
  exact shows_of_fillHole hwritable.content fun fresh =>
    fillHole_context fresh hdistinct' hwritable hvisible hkept hkeyed

/-! ## Names of the status -/

/-- A step that binds the status to a name, and one that sends the placeholder of the name. -/
def statusJourney (n : String) : Journey :=
  Journey.plainJourney
    [{ Journey.plainStep "create" none with extract := [⟨.status, "", n, none, none⟩] },
     { Journey.plainStep "check" none with
       request := ⟨"GET", "/check", [], .null, some (placeholderOf n), [], none, none⟩ }]

def statusCourse (n : String) : Course :=
  .ofJourney (statusJourney n) none

def statusUser (n : String) : VirtualUser :=
  start (statusJourney n) "vu-1" none []

/-- The user once the first step was answered. -/
def answeredUser (n : String) : VirtualUser :=
  ((statusUser n).respond (statusCourse n) "create" (Journey.plainResponse 200)).2

theorem statusCourse_step (n : String) : (statusCourse n).step "create" = .ok
    { Journey.plainStep "create" none with extract := [⟨.status, "", n, none, none⟩] } := rfl

theorem status_binds (n : String) :
    Extraction.Binds [⟨.status, "", n, none, none⟩] (Journey.plainResponse 200) n (.int 200) :=
  ⟨⟨_, Journey.runAll_status n⟩, [], _, [], rfl, rfl, rfl, fun _ h => (nomatch h)⟩

theorem code_shows :
    Run (statusCourse "code") (statusUser "code") (statusUser "code") ∧
      Extraction.Binds [⟨.status, "", "code", none, none⟩] (Journey.plainResponse 200) "code"
        (.int 200) ∧
      RunWithout (statusCourse "code") "code" (answeredUser "code") (answeredUser "code") ∧
      Writable "code" ∧ Visible "code" ∧
      Shows (statusCourse "code") (answeredUser "code") "code" (.int 200) := by
  have hwritable : Writable "code" := ⟨⟨by simp, by simp [isBrace]⟩, by cbv⟩
  have hvisible : Visible "code" :=
    ⟨by simp [PathPart.isNameChar], by decide +kernel, by decide⟩
  have hkeyed := (status_binds "code").isKeyed ⟨rfl, rfl⟩ (by simp [Extraction.KeyedDefault])
  refine ⟨.refl, status_binds _, .refl, hwritable, hvisible, ?_⟩
  exact bound_variable_shows .refl (statusCourse_step _) (status_binds _) hkeyed .refl hwritable
    hvisible

/-- The document of that journey. -/
def statusDocument (n : String) : Value :=
  .object [("id", .text "shop"), ("name", .text "Shop"), ("steps", .list [
    .object [("id", .text "create"),
      ("request", .object [("method", .text "GET"), ("url", .text "/create")]),
      ("extract", .list [.object [("type", .text "status"), ("as", .text n)]])],
    .object [("id", .text "check"),
      ("request", .object [("method", .text "GET"), ("url", .text "/check"),
        ("body", .text (placeholderOf n))])]])]

/-- The accepted journey binds the status to a name that can be written in a placeholder, once
    the first step, which is due, was answered; and requests do not show it there. -/
structure Unseen (n : String) : Prop where
  read : Journey.read (statusDocument n) = .accepted (statusJourney n)
  due : (statusJourney n).shouldExecute (statusUser n).state "create" = true
  binds : Extraction.Binds [⟨.status, "", n, none, none⟩] (Journey.plainResponse 200) n (.int 200)
  writable : Writable n
  not_shown : ¬ Shows (statusCourse n) (answeredUser n) n (.int 200)

def someFresh : Fresh :=
  ⟨"id", "id", .int 0, .int 0, "now"⟩

/-- The body that the second step sends, if there is one. -/
def sentBody? (n : String) : Option String :=
  ((answeredUser n).prepare (statusCourse n) someFresh "check").toOption.bind (·.body)

theorem not_shows_of_sentBody {n t : String} (hsent : sentBody? n = some t) (ht : t ≠ "200") :
    ¬ Shows (statusCourse n) (answeredUser n) n (.int 200) := by
  intro hshows
  have hnumber : textOf (.int 200) = .ok "200" := by
    have hwritten : (Value.int 200).written? = some "200" :=
      Value.intText?_of_lt (k := 3) (by decide) (by decide)
    simp only [textOf, Value.shown?, hwritten]
  unfold sentBody? at hsent
  cases hq : (answeredUser n).prepare (statusCourse n) someFresh "check" with
  | error f => simp [hq, Except.toOption] at hsent
  | ok q =>
    obtain ⟨t', ht', hbody⟩ := hshows.body someFresh "check" _ q rfl hq rfl
    rw [hnumber] at ht'
    cases ht'
    rw [hq, Except.toOption, Option.bind_some, hbody, Option.some.injEq] at hsent
    exact ht hsent.symm

/-- A path, an internal name and a built-in one. -/
theorem bound_variable_unseen : Unseen "order.id" ∧ Unseen "__code" ∧ Unseen "$uuid" := by
  refine ⟨⟨by cbv, rfl, status_binds _, ⟨⟨by simp, by simp [isBrace]⟩, by cbv⟩, ?_⟩,
    ⟨by cbv, rfl, status_binds _, ⟨⟨by simp, by simp [isBrace]⟩, by cbv⟩, ?_⟩,
    ⟨by cbv, rfl, status_binds _, ⟨⟨by simp, by simp [isBrace]⟩, by cbv⟩, ?_⟩⟩
  · exact not_shows_of_sentBody (t := "\x7b\x7border.id\x7d\x7d") (by decide +kernel) (by decide)
  · exact not_shows_of_sentBody (t := "\x7b\x7b__code\x7d\x7d") (by decide +kernel) (by decide)
  · exact not_shows_of_sentBody (t := "id") (by decide +kernel) (by decide)

end ApiJourney.VirtualUser
