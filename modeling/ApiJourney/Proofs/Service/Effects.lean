-- SUMMARY: What each request does to the state of the decision service.
import ApiJourney.Files.Tree
import ApiJourney.Profile.Provider
import ApiJourney.Proofs.Flow.Run
import ApiJourney.Service.Handling
import ApiJourney.Value.Portable

/-!
# Effects of requests

A request only asks, or it is refused, or it does one of a few things to the state: it loads a
journey, adds a user, takes a step or removes a user. Two failures leave a mark: a load that was
refused is remembered, and random numbers that a failed draw took are gone. And where a step's
transition ends with a fault, the variables that were extracted stay bound.
-/

namespace ApiJourney

namespace VirtualUser

variable {u u' : VirtualUser} {c : Course} {id : String} {r : Response}

/-- A response that was taken puts its step behind those executed, and its errors behind those
    recorded. -/
theorem respond_ok {o : StepOutcome} (h : u.respond c id r = (.ok o, u')) :
    u'.id = u.id ∧ u'.state.executed = u.state.executed ++ [id] ∧
      u'.errors = u.errors ++ o.errors := by
  unfold respond Course.step at h
  cases hstep : c.journey.step? id with
  | none => simp [hstep] at h
  | some s =>
    have hid : s.id = id := by
      simpa [Journey.step?] using List.find?_some hstep
    simp only [hstep] at h
    split at h
    · simp at h
    · next o' state hprocess =>
      simp only [Prod.mk.injEq, Except.ok.injEq] at h
      obtain ⟨rfl, rfl⟩ := h
      obtain ⟨extracted, t, -, rfl⟩ := Journey.process_eq_ok hprocess
      exact ⟨rfl, by rw [← hid]; rfl, rfl⟩

/-- A response that ended with a fault leaves the user as it was, unless its extractions were done
    and the transition failed: then what they found is bound. -/
theorem respond_error {f : Failure} (h : u.respond c id r = (.error f, u')) :
    u' = u ∨ ∃ s extracted e, c.journey.step? id = some s ∧
      Extraction.runAll r s.extract = .ok extracted ∧ c.journey.transition s r = .error e ∧
      u' = { u with state := Journey.FlowState.bind u.state extracted.bindings } := by
  unfold respond Course.step at h
  cases hstep : c.journey.step? id with
  | none =>
    simp only [hstep] at h
    cases h
    exact .inl rfl
  | some s =>
    simp only [hstep] at h
    unfold Journey.process at h
    cases hextract : Extraction.runAll r s.extract with
    | error e =>
      simp only [hextract] at h
      cases h
      exact .inl rfl
    | ok extracted =>
      cases htransition : c.journey.transition s r with
      | error e =>
        simp only [hextract, htransition] at h
        cases h
        exact .inr ⟨s, extracted, e, rfl, hextract, htransition, rfl⟩
      | ok t => simp [hextract, htransition] at h

end VirtualUser

namespace Service

variable {F : Faker} {W : Framework} {x : Supply F} {r : W.Request} {s : State F} {route : Route}

/-! ## Routes -/

/-- The route whose handler a framework calls for a request. -/
def Framework.route? (W : Framework) (r : W.Request) : Option Route :=
  match W.dispatch r with
  | .call route _ => some route
  | .own _ => none

/-- A request for a route is answered by what comes of the route with some body. -/
theorem serve_of_route (h : W.route? r = some route) :
    ∃ body, ∀ (x : Supply F) (s : State F), serve W x r s =
      (.ofResult (follow x route body s).1, (follow x route body s).2) := by
  unfold Framework.route? at h
  cases hdispatch : W.dispatch r with
  | call route' body =>
    rw [hdispatch] at h
    cases h
    exact ⟨body, fun x s => by rw [serve, hdispatch]⟩
  | own reply =>
    rw [hdispatch] at h
    cases h

/-- What a framework replies by itself changes nothing. -/
theorem serve_of_no_route (h : W.route? r = none) : (serve W x r s).2 = s := by
  unfold Framework.route? at h
  unfold serve
  cases hdispatch : W.dispatch r with
  | call route body =>
    rw [hdispatch] at h
    cases h
  | own reply => rfl

/-- Routes that leave every state as it is. -/
def Route.onlyAsks : Route → Bool
  | load => false
  | createUser => false
  | stepResponse _ _ => false
  | deleteUser _ => false
  | _ => true

/-! ## Effects -/

/-- What a new user is given: the context drawn for it, and the distributor behind the draw. -/
def Draws (x : Supply F) (s : State F) (context : Option UserContext)
    (source : Option (Distributor F)) : Prop :=
  match s.source with
  | none => context = none ∧ source = none
  | some d => ∃ c d', d.draw x.fresh = (.ok c, d') ∧ context = some c ∧ source = some d'

/-- A step is due for a user, on the journey that is loaded. -/
structure Due (s : State F) (user step : String) (u : VirtualUser) (l : LoadedJourney) : Prop where
  user : s.user? user = some u
  loaded : s.loaded = some l
  due : l.journey.shouldExecute u.state step = true

/-- What a request for a route comes to: its result, and the state behind it. -/
inductive Effect (x : Supply F) (s : State F) :
    Route → Except Refusal Content → State F → Prop where
  | asked {route : Route} (h : route.onlyAsks = true) (result : Except Refusal Content) :
      Effect x s route result s
  | refused (route : Route) (e : Refusal) : Effect x s route (.error e) s
  | loadRefused {e : Refusal} (h : e.isVerdict = true) : Effect x s .load (.error e) s.markFailing
  | loaded (l : LoadedJourney) (source : Option (Distributor F)) (environment : Entries) :
      Effect x s .load (plain (loadedValue l source)) (State.load l source environment)
  | drawFailed {d d' : Distributor F} {f : Failure} (hsource : s.source = some d)
      (hdraw : d.draw x.fresh = (.error f, d')) :
      Effect x s .createUser (.error (hidden f)) { s with source := some d' }
  | created {l : LoadedJourney} {context : Option UserContext} {source : Option (Distributor F)}
      {u : VirtualUser} (hloaded : s.loaded = some l) (hdraws : Draws x s context source)
      (hstart : u = VirtualUser.start l.journey x.userId context s.environment) :
      Effect x s .createUser (sent (createdValue x u)) ({ s with source }.addUser u)
  | broke {user step : String} {u u' : VirtualUser} {l : LoadedJourney} {r : Response}
      {f : Failure} (hdue : Due s user step u l)
      (hrespond : u.respond ⟨l, none⟩ step r = (.error f, u')) :
      Effect x s (.stepResponse user step) (.error (hidden f)) (s.keepUser u')
  | stepped {user step : String} {u u' : VirtualUser} {l : LoadedJourney} {r : Response}
      {o : StepOutcome} (hdue : Due s user step u l)
      (hrespond : u.respond ⟨l, none⟩ step r = (.ok o, u')) :
      Effect x s (.stepResponse user step) (sent (outcomeValue x o u'.isFinished))
        (s.recordStep u' o)
  | deleted {id : String} {u : VirtualUser} (huser : s.user? id = some u) :
      Effect x s (.deleteUser id) (plain u.summary.toValue) (s.removeUser id)

/-- The result and the state of an outcome are those of an effect. -/
abbrev HasEffect (x : Supply F) (s : State F) (route : Route) (outcome : Outcome F) : Prop :=
  Effect x s route outcome.1 outcome.2

theorem load_effect (x : Supply F) (body : Option Value) (s : State F) :
    HasEffect x s .load (load x body s) := by
  unfold load
  split
  · exact .refused .load _
  · dsimp only
    split
    · next e _ =>
      split
      · next hverdict => exact .loadRefused hverdict
      · exact .refused .load e
    · exact .loaded _ _ _

theorem requireJourney_eq_ok {l : LoadedJourney} (h : requireJourney s = .ok l) :
    s.loaded = some l := by
  unfold requireJourney at h
  split at h
  · next hloaded =>
    cases h
    exact hloaded
  · cases h

theorem createUser_effect (x : Supply F) (s : State F) :
    HasEffect x s .createUser (createUser x s) := by
  unfold createUser
  split
  · exact .refused .createUser _
  · next l hjourney =>
    have hloaded := requireJourney_eq_ok hjourney
    split
    · next hsource =>
      have hdraws : Draws x s none none := by
        simp [Draws, hsource]
      have hcreated : HasEffect x s .createUser (startUser x l none { s with source := none }) :=
        .created hloaded hdraws rfl
      rwa [← hsource] at hcreated
    · next d hsource =>
      split
      · next f d' hdraw => exact .drawFailed hsource hdraw
      · next c d' hdraw =>
        have hdraws : Draws x s (some c) (some d') := by
          rw [Draws, hsource]
          exact ⟨c, d', hdraw, rfl, rfl⟩
        exact .created hloaded hdraws rfl

theorem requireStep_eq_ok {user step : String} {u : VirtualUser} {c : Course}
    (h : requireStep s user step = .ok (u, c)) : ∃ l, c = ⟨l, none⟩ ∧ Due s user step u l := by
  unfold requireStep requireUser at h
  cases huser : s.user? user with
  | none => simp [huser, bind, Except.bind] at h
  | some v =>
    cases hjourney : requireJourney s with
    | error e => simp [huser, hjourney, bind, Except.bind] at h
    | ok l =>
      simp only [huser, hjourney, bind, Except.bind] at h
      split at h
      · cases h
      · split at h
        · cases h
        · next hdue =>
          cases h
          exact ⟨l, rfl, huser, requireJourney_eq_ok hjourney, by simpa using hdue⟩

theorem stepResponse_effect (x : Supply F) (user step : String) (body : Option Value) (s : State F) :
    HasEffect x s (.stepResponse user step) (stepResponse x user step body s) := by
  unfold stepResponse
  cases hbody : readBody body fun es => Response.read (.dict es) with
  | error e => exact .refused _ e
  | ok r =>
    cases hstep : requireStep s user step with
    | error e =>
      simp only [bind, Except.bind]
      exact .refused _ e
    | ok p =>
      obtain ⟨u, c⟩ := p
      obtain ⟨l, rfl, hdue⟩ := requireStep_eq_ok hstep
      simp only [bind, Except.bind]
      split
      · next f u' hrespond => exact .broke hdue hrespond
      · next o u' hrespond => exact .stepped hdue hrespond

theorem deleteUser_effect (x : Supply F) (id : String) (s : State F) :
    HasEffect x s (.deleteUser id) (deleteUser id s) := by
  unfold deleteUser requireUser
  cases huser : s.user? id with
  | none => exact .refused _ _
  | some u => exact .deleted huser

theorem follow_effect (x : Supply F) (route : Route) (body : Option Value) (s : State F) :
    HasEffect x s route (follow x route body s) := by
  cases route with
  | load => exact load_effect x body s
  | createUser => exact createUser_effect x s
  | stepResponse user step => exact stepResponse_effect x user step body s
  | deleteUser user => exact deleteUser_effect x user s
  | _ => exact .asked rfl _

/-! ## Replies -/

/-- Content is sent with its status, or the request fails. -/
theorem Reply.status_ofContent (status : Nat) (c : Content) :
    (Reply.ofContent status c).status = status ∨ (Reply.ofContent status c).status = 500 := by
  unfold Reply.ofContent
  split
  · split
    · exact .inl rfl
    · exact .inr rfl
  · exact .inl rfl

theorem Refusal.status_reply (e : Refusal) :
    e.reply.status = e.status ∨ e.reply.status = 500 := by
  cases e with
  | fault f => exact .inr rfl
  | _ => exact Reply.status_ofContent _ _

/-- No refusal is answered with a success. -/
theorem status_error_ne (e : Refusal) : (Reply.ofResult (.error e)).status ≠ 200 := by
  have hstatus : e.status ≠ 200 := by
    cases e <;> simp [Refusal.status]
  change e.reply.status ≠ 200
  rcases e.status_reply with h | h
  · rw [h]
    exact hstatus
  · simp [h]

theorem status_plain (v : Value) :
    (Reply.ofResult (plain v)).status = 200 ∨ (Reply.ofResult (plain v)).status = 500 :=
  Reply.status_ofContent 200 (.document v)

theorem status_sent (v : Except Fault Value) :
    (Reply.ofResult (sent v)).status = 200 ∨ (Reply.ofResult (sent v)).status = 500 := by
  cases v with
  | ok v => exact status_plain v
  | error f => exact .inr rfl

theorem status_hidden (f : Failure) : (Reply.ofResult (.error (hidden f))).status = 500 := by
  cases f <;> rfl

/-! ## A shop -/

/-- What comes from outside, with an identifier for a new user. -/
def supplyFor (id : String) : Supply .small where
  disk := (Files.Tree.mk ⟨"/", ["work"]⟩ [] []).disk
  fresh := ⟨"", "", .null, .null, ""⟩
  entropy := 0
  fakes := Faker.Small.atFirst 0
  dump := Value.portable
  userId := id
  host := ⟨"", 0, 0, Binary64.zero false, Binary64.zero false, Binary64.zero false,
    Binary64.zero false⟩

/-- A journey of one step, which binds the status by way of a transform. -/
def shopDocument (transform : String) : Value :=
  .object [("id", .text "shop"), ("name", .text "Shop"), ("steps", .list [.object [
    ("id", .text "create"),
    ("request", .object [("method", .text "GET"), ("url", .text "/create")]),
    ("extract", .list [.object [
      ("type", .text "status"), ("as", .text "code"), ("transform", .text transform)]])]])]

def loadShop (transform : String) : Framework.PlainRequest :=
  ⟨"POST", "/api/load", some (.object [("journey", shopDocument transform)])⟩

def enterShop : Framework.PlainRequest :=
  ⟨"POST", "/api/users", none⟩

def answerCreate (user : String) : Framework.PlainRequest :=
  ⟨"POST", s!"/api/users/{user}/steps/create/response",
    some (.object [("statusCode", .int 200)])⟩

def leaveShop (user : String) : Framework.PlainRequest :=
  ⟨"DELETE", s!"/api/users/{user}", none⟩

end Service

end ApiJourney
