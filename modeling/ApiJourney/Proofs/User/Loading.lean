-- SUMMARY: When a loaded journey makes the same requests as the journey that it was loaded from.
import ApiJourney.Proofs.Journey.Loading
import ApiJourney.Proofs.User.Bindings

/-!
# Requests of loaded journeys

The base URL and the default headers of a loaded journey were filled when it was loaded, and what
was left of them is filled again for each user. Those of a journey as it is written are filled
for the user only. Both make the same requests where these templates settle: the user has for all
that the load knew the same text. Where a layer of the user comes over a variable that the load
knew, the loaded journey keeps the text of the load.
-/

namespace ApiJourney.VirtualUser

open Template RenderedRequest LoadedJourney

variable {j : Journey} {l : LoadedJourney} {s : Step} {base : Option String}
  {early late : Value}

/-! ## Bases -/

theorem baseOf_of_given? {own : Option String} {b : String} (h : Text.given? own = some b)
    (base : Option String) : baseOf (.ofOption .text own) base = some (.text b) := by
  obtain ⟨rfl, hb⟩ := Option.filter_eq_some_iff.1 h
  exact if_pos hb

/-- URLs are joined to a base that holds nothing as they are without a base. -/
theorem joinUrl_of_not_truthy {v : Value} (h : v.truthy = false) :
    joinUrl (some v) = joinUrl none := by
  funext url
  simp [joinUrl, h]

theorem fill_of_not_truthy {v : Value} (context : Value) (h : v.truthy = false) :
    fill context v = .ok v := by
  cases v with
  | text t =>
    obtain rfl : t = "" := by simpa [Value.truthy] using h
    rw [fill, fillText_inert context (by decide) (by decide)]
  | _ => rfl

/-- What a base URL is once it was filled early: a text that settles, or a variable token that
    stands for the same value of another kind early and late. -/
inductive BaseSettles (early late : Value) (b : String) : Value → Prop where
  | text {b' : String} : Settles early late b b' → BaseSettles early late b (.text b')
  | token {v : Value} : (∀ t, v ≠ .text t) → fillText early b = .ok v →
      fillText late b = .ok v → BaseSettles early late b v

theorem BaseSettles.fill_early {b : String} {v : Value} (h : BaseSettles early late b v) :
    fillText early b = .ok v := by
  cases h with
  | text h => exact h.fillText_early
  | token _ h _ => exact h

theorem BaseSettles.fill_late {b : String} {v : Value} (h : BaseSettles early late b v) :
    fill late v = fillText late b := by
  cases h with
  | text h => exact h.fillText_late
  | token hkind _ h =>
    rw [h]
    cases v with
    | text t => exact absurd rfl (hkind t)
    | _ => rfl

/-- URLs are joined late to a base that settles as to the base as it is written. One that is
    filled to nothing is as no base, so that no other may stand in for it. -/
theorem join_fillBase {own : Option String} {filled : Value}
    (hsettles : ∀ b, Text.given? own = some b →
      ∃ v, BaseSettles early late b v ∧ (v.truthy = false → Text.given? base = none))
    (h : fillBase early own = .ok filled) :
    (fillRoot late (baseOf filled base)).map joinUrl =
      (fillRoot late (baseOf (.ofOption .text own) base)).map joinUrl := by
  unfold fillBase at h
  cases hown : Text.given? own with
  | none =>
    rw [hown] at h
    cases h
    rfl
  | some b =>
    obtain ⟨v, hv, hstandIn⟩ := hsettles b hown
    rw [hown] at h
    dsimp only at h
    rw [hv.fill_early] at h
    cases h
    have hwritten : fillRoot late (baseOf (.ofOption .text own) base) =
        (fill late filled).map some := by
      rw [baseOf_of_given? hown, hv.fill_late]
      rfl
    rw [hwritten]
    -- A base that was filled to nothing gives way to the one asked for, and there is none.
    cases htruthy : filled.truthy with
    | true =>
      rw [baseOf, if_pos htruthy]
      rfl
    | false =>
      rw [baseOf, htruthy, hstandIn htruthy, fill_of_not_truthy late htruthy]
      exact congrArg Except.ok (joinUrl_of_not_truthy htruthy).symm

/-! ## Requests -/

/-- The base URL and the default headers of a journey settle for a step. A base URL that is
    filled to nothing has no other that stands in for it. -/
structure LoadSettles (j : Journey) (s : Step) (base : Option String) (early late : Value) :
    Prop where
  base : ∀ b, Text.given? j.baseUrl = some b →
    ∃ v, BaseSettles early late b v ∧ (v.truthy = false → Text.given? base = none)
  headers : ∃ filled, HeadersSettle early late j.defaults.headers filled s.request.headers

theorem draft_loaded {environment : Option Entries} {bindings : Entries}
    (hload : ofJourney j environment bindings = .ok l)
    (hsettles : LoadSettles j s base (.dict (LoadedJourney.context j environment bindings)) late) :
    draft l.journey s late (baseOf l.base base) =
      draft j s late (baseOf (.ofOption .text j.baseUrl) base) := by
  obtain ⟨hbase, d', hdefaults, hjourney⟩ := ofJourney_ok hload
  obtain ⟨-, hs, hfill, hread⟩ := fillDefaults_ok hdefaults
  obtain ⟨filled, hheaders⟩ := hsettles.headers
  refine draft_congr (join_fillBase hsettles.base hbase) ?_
  rw [hjourney, hheaders.eq_filled hfill hread]
  exact hheaders.fillTexts_eq

theorem render_loaded {environment : Option Entries} {bindings context : Entries}
    (hload : ofJourney j environment bindings = .ok l)
    (hsettles : LoadSettles j s base (.dict (LoadedJourney.context j environment bindings))
      (.dict context)) :
    render l.journey s context (baseOf l.base base) =
      render j s context (baseOf (.ofOption .text j.baseUrl) base) := by
  obtain ⟨-, d', hdefaults, hjourney⟩ := ofJourney_ok hload
  have hread : ofDraft l.journey s = ofDraft j s := by
    funext d
    unfold ofDraft
    rw [hjourney, (fillDefaults_ok hdefaults).1]
  unfold render
  rw [draft_loaded hload hsettles, hread]

/-- Users of a loaded journey start as those of the journey as it is written, and the requests
    for each step for which base URL and default headers settle are the same. -/
theorem prepare_loaded {environment : Option Entries} {bindings : Entries}
    (hload : ofJourney j environment bindings = .ok l) {u : VirtualUser} {fresh : Fresh}
    {id : String}
    (hsettles : ∀ s, j.step? id = some s → LoadSettles j s base
      (.dict (LoadedJourney.context j environment bindings)) (u.templateContext fresh)) :
    (∀ name context environment, start l.journey name context environment =
      start j name context environment) ∧
    u.prepare ⟨l, base⟩ fresh id = u.prepare (.ofJourney j base) fresh id := by
  obtain ⟨-, _, -, hjourney⟩ := ofJourney_ok hload
  constructor
  · intro name context environment
    rw [hjourney]
    rfl
  · have hstep : Course.step ⟨l, base⟩ id = (Course.ofJourney j base).step id := by
      unfold Course.step Course.journey
      rw [hjourney]
      rfl
    unfold prepare
    rw [hstep]
    cases hs : (Course.ofJourney j base).step id with
    | error f => rfl
    | ok s => exact render_loaded hload (hsettles s (step_eq_ok.1 hs))

/-! ## A journey with a host -/

/-- A journey whose requests go to the host that its variables name. -/
def hostJourney : Journey :=
  { Journey.plainJourney [Journey.plainStep "create" none] with
    baseUrl := some "https://\x7b\x7bhost\x7d\x7d"
    defaults :=
      ⟨[("X-Host", "\x7b\x7bhost\x7d\x7d"), ("X-Token", "\x7b\x7btoken\x7d\x7d")], none, none⟩
    bindings := [(.text "host", .text "api.test")] }

def loadedHostJourney : LoadedJourney :=
  ⟨{ hostJourney with
      defaults := ⟨[("X-Host", "api.test"), ("X-Token", "\x7b\x7btoken\x7d\x7d")], none, none⟩ },
    .text "https://api.test", []⟩

/-- What the load of the journey knows. -/
def hostContext : Value :=
  .dict (LoadedJourney.context hostJourney (some []) [])

theorem lookup?_hostContext :
    lookup? hostContext (pathOf "host".toList) = .ok (some (.text "api.test")) := by
  cbv

theorem host_settles (h : lookup? late (pathOf "host".toList) = .ok (some (.text "api.test"))) :
    Settles hostContext late "\x7b\x7bhost\x7d\x7d" "api.test" ∧
      Settles hostContext late "https://\x7b\x7bhost\x7d\x7d" "https://api.test" := by
  have hcontent : Content "host".toList := ⟨by simp, by simp [isBrace]⟩
  have hpieces : PiecesSettle hostContext late [.hole "host".toList] [.written "api.test".toList] :=
    .known hcontent lookup?_hostContext rfl h rfl (by decide +kernel) .nil
  have hbase : PiecesSettle hostContext late [.written "https://".toList, .hole "host".toList]
      [.written "https://".toList, .written "api.test".toList] :=
    .written (by decide +kernel) (by decide +kernel) hpieces
  exact ⟨.placeholders hpieces (by decide +kernel) (by decide +kernel) (by decide) (by decide),
    .placeholders hbase (by decide +kernel) (by decide +kernel) (by decide) (by decide)⟩

theorem token_settles (late : Value) :
    Settles hostContext late "\x7b\x7btoken\x7d\x7d" "\x7b\x7btoken\x7d\x7d" := by
  have hpieces : PiecesSettle hostContext late [.hole "token".toList] [.hole "token".toList] :=
    .unknown ⟨by simp, by simp [isBrace]⟩ (by cbv) .nil
  exact .placeholders hpieces (by decide +kernel) (by decide +kernel) (by decide) (by decide)

theorem names_settle (late : Value) : Settles hostContext late "X-Host" "X-Host" ∧
    Settles hostContext late "X-Token" "X-Token" :=
  ⟨.of_inert (by decide +kernel) (by decide), .of_inert (by decide +kernel) (by decide)⟩

theorem hostJourney_settles
    (h : lookup? late (pathOf "host".toList) = .ok (some (.text "api.test"))) :
    LoadSettles hostJourney (Journey.plainStep "create" none) none hostContext late where
  base := by
    intro b hb
    cases hb
    exact ⟨_, .text (host_settles h).2, fun _ => rfl⟩
  headers :=
    ⟨loadedHostJourney.journey.defaults.headers,
      { each := .cons ⟨(names_settle late).1, (host_settles h).1⟩
          (.cons ⟨(names_settle late).2, token_settles late⟩ .nil)
        distinct := by decide
        apart := .cons (fun _ _ => Iff.rfl) (.cons (fun _ _ => Iff.rfl) .nil) }⟩

theorem ofJourney_hostJourney : ofJourney hostJourney (some []) [] = .ok loadedHostJourney := by
  obtain ⟨hhost, hurl⟩ := host_settles lookup?_hostContext
  have hheaders : fillAll hostContext (withoutNulls hostJourney.defaults.toValue) =
      .ok (withoutNulls loadedHostJourney.journey.defaults.toValue) := by
    have htoken := (token_settles hostContext).fillText_early
    have hheader := fillText_inert hostContext (s := "headers") (by decide +kernel) (by decide)
    obtain ⟨hhostName, htokenName⟩ := names_settle hostContext
    rw [withoutNulls_toValue, withoutNulls_toValue]
    simp only [heldFields, hostJourney, loadedHostJourney, textMap_eq, entriesOf, Option.map_none,
      Option.toList_none, List.append_nil, List.map_cons, List.map_nil, fillAll, fillEntries, fill,
      hheader, hhostName.fillText_early, htokenName.fillText_early, hhost.fillText_early, htoken]
    rfl
  have hdefaults : fillDefaults hostContext hostJourney.defaults =
      .ok loadedHostJourney.journey.defaults := by
    unfold fillDefaults
    rw [hheaders]
    rfl
  have hbase : fillBase hostContext hostJourney.baseUrl = .ok (.text "https://api.test") :=
    hurl.fillText_early
  unfold ofJourney
  change (orFault (fillBase hostContext _) >>= _) = _
  rw [hbase]
  change (fillDefaults hostContext _ >>= _) = _
  rw [hdefaults]
  rfl

/-- A user whose profile has variables of its own. -/
def hostUser (bindings : Entries) : VirtualUser :=
  start hostJourney "vu-1" (some ⟨"eu", [], bindings, []⟩) []

/-- The URL and the headers of the user's request, if there is one. -/
def sent? (c : Course) (bindings : Entries) : Option (String × List (String × String)) :=
  ((hostUser bindings).prepare c someFresh "create").toOption.map fun q => (q.url, q.headers)

/-- A variable that only the profile has is filled for the user in both journeys. -/
theorem prepare_hostUser :
    ofJourney hostJourney (some []) [] = .ok loadedHostJourney ∧
      (hostUser [(.text "token", .text "t-1")]).prepare ⟨loadedHostJourney, none⟩ someFresh
          "create" =
        (hostUser [(.text "token", .text "t-1")]).prepare (.ofJourney hostJourney none) someFresh
          "create" ∧
      sent? ⟨loadedHostJourney, none⟩ [(.text "token", .text "t-1")] =
        some ("https://api.test/create", [("X-Host", "api.test"), ("X-Token", "t-1")]) := by
  refine ⟨ofJourney_hostJourney, ?_, by decide +kernel⟩
  refine (prepare_loaded ofJourney_hostJourney fun s hs => ?_).2
  cases hs
  exact hostJourney_settles (by cbv)

/-- The host of the profile comes over the host of the journey, but not in the loaded one. -/
theorem host_of_profile_unseen :
    ofJourney hostJourney (some []) [] = .ok loadedHostJourney ∧
      sent? (.ofJourney hostJourney none) [(.text "host", .text "eu.test")] =
        some ("https://eu.test/create",
          [("X-Host", "eu.test"), ("X-Token", "\x7b\x7btoken\x7d\x7d")]) ∧
      sent? ⟨loadedHostJourney, none⟩ [(.text "host", .text "eu.test")] =
        some ("https://api.test/create",
          [("X-Host", "api.test"), ("X-Token", "\x7b\x7btoken\x7d\x7d")]) :=
  ⟨ofJourney_hostJourney, by decide +kernel, by decide +kernel⟩

end ApiJourney.VirtualUser
