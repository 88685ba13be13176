-- SUMMARY: What the requests that fail leave behind in the decision service.
import ApiJourney.Proofs.Profile.Draws
import ApiJourney.Proofs.Service.Effects

/-!
# Requests that fail

A request that is refused changes nothing but random numbers, and a load that is refused the
status. What fails without a reason for the client may come too late: a journey is loaded, a
user added or removed and a step taken before the answer is written, and they stay also when it
cannot be sent; and a transition that ends with a fault leaves variables bound.
-/

namespace ApiJourney

namespace Distributor

variable {F : Faker}

/-- Only random numbers and what the library of fake data remembers are not the same. -/
def SameDraws (d d' : Distributor F) : Prop :=
  d' = { d with random := d'.random, fakes := d'.fakes }

theorem SameDraws.of_draw {d d' : Distributor F} {fresh : Fresh} {f : Failure}
    (h : d.draw fresh = (.error f, d')) : d.SameDraws d' := by
  unfold draw at h
  split at h
  next x t hunit =>
  dsimp only at h
  split at h
  · cases h
    rfl
  · exact (drawFrom_error h).1

end Distributor

namespace Service

open Distributor

variable {F : Faker} {W : Framework} {x : Supply F} {r : W.Request} {s s' : State F}
  {route : Route}

/-! ## Reachable states -/

/-- States behind any requests, whatever came of them. -/
inductive Reachable (W : Framework) : State F → Prop where
  | initial : Reachable W .initial
  | request {s : State F} (h : Reachable W s) (x : Supply F) (r : W.Request) :
      Reachable W (serve W x r s).2

/-- Users are found under their own identifiers. -/
def OwnIds (s : State F) : Prop :=
  ∀ e ∈ s.users, e.2.id = e.1

theorem OwnIds.assign {users : List (String × VirtualUser)} (h : ∀ e ∈ users, e.2.id = e.1)
    (u : VirtualUser) : ∀ e ∈ assign u.id u users, e.2.id = e.1 := by
  intro e he
  rcases mem_assign he with rfl | he
  · rfl
  · exact h e he

theorem OwnIds.effect {result : Except Refusal Content} (h : OwnIds s)
    (heffect : Effect x s route result s') : OwnIds s' := by
  cases heffect with
  | asked _ _ => exact h
  | refused _ _ => exact h
  | loadRefused _ => exact h
  | loaded _ _ _ => exact List.forall_mem_nil _
  | drawFailed _ _ => exact h
  | created _ _ _ => exact OwnIds.assign h _
  | broke _ _ => exact OwnIds.assign h _
  | stepped _ _ => exact OwnIds.assign h _
  | deleted _ => exact fun e he => h e (List.mem_of_mem_filter he)

theorem Reachable.ownIds (h : Reachable W s) : OwnIds s := by
  induction h with
  | initial => exact List.forall_mem_nil _
  | @request s _ x r ih =>
    cases hroute : W.route? r with
    | none => rwa [serve_of_no_route hroute]
    | some route =>
      obtain ⟨body, hserve⟩ := serve_of_route (F := F) hroute
      rw [hserve]
      exact ih.effect (follow_effect x route body s)

/-! ## What stays -/

/-- Nothing but the status and random numbers has changed. -/
structure Unchanged (s s' : State F) : Prop where
  loaded : s'.loaded = s.loaded
  environment : s'.environment = s.environment
  users : s'.users = s.users
  counters : s'.counters = s.counters
  source : s'.source = s.source ∨
    ∃ d d', s.source = some d ∧ s'.source = some d' ∧ d.SameDraws d'

theorem Unchanged.refl (s : State F) : Unchanged s s :=
  ⟨rfl, rfl, rfl, rfl, .inl rfl⟩

/-- A request that leaves no trace but, when it was a load, the status. -/
structure Traceless (route : Option Route) (s s' : State F) : Prop where
  unchanged : Unchanged s s'
  status : s'.status = s.status ∨ route = some .load

theorem Traceless.refl (route : Option Route) (s : State F) : Traceless route s s :=
  ⟨.refl s, .inl rfl⟩

/-- A document that did not become plain or cannot be sent. -/
def Unsendable (document : Except Fault Value) : Prop :=
  ∀ v, document = .ok v → v.isSendable = false

/-- What was done before a request failed. -/
inductive Committed (x : Supply F) (s : State F) : Route → State F → Prop where
  | loaded (l : LoadedJourney) (source : Option (Distributor F)) (environment : Entries)
      (hlost : (loadedValue l source).isSendable = false) :
      Committed x s .load (State.load l source environment)
  | created {context : Option UserContext} {source : Option (Distributor F)} {u : VirtualUser}
      (hdraws : Draws x s context source) (hcontext : u.context = context)
      (hlost : Unsendable (createdValue x u)) :
      Committed x s .createUser ({ s with source }.addUser u)
  | bound {user step : String} {u : VirtualUser} {l : LoadedJourney} {r : Response} {t : Step}
      {extracted : Extracted} {f : Fault} (hdue : Due s user step u l)
      (hextracted : Extraction.runAll r t.extract = .ok extracted)
      (htransition : l.journey.transition t r = .error f) :
      Committed x s (.stepResponse user step)
        (s.keepUser { u with state := Journey.FlowState.bind u.state extracted.bindings })
  | stepped {user step : String} {u u' : VirtualUser} {l : LoadedJourney} {r : Response}
      {o : StepOutcome} (hdue : Due s user step u l)
      (hrespond : u.respond ⟨l, none⟩ step r = (.ok o, u'))
      (hlost : Unsendable (outcomeValue x o u'.isFinished)) :
      Committed x s (.stepResponse user step) (s.recordStep u' o)
  | deleted {id : String} {u : VirtualUser} (huser : s.user? id = some u)
      (hlost : u.summary.toValue.isSendable = false) :
      Committed x s (.deleteUser id) (s.removeUser id)

theorem isSendable_of_status {v : Value} (h : (Reply.ofResult (plain v)).status ≠ 200) :
    v.isSendable = false := by
  cases hv : v.isSendable with
  | false => rfl
  | true => simp [plain, Reply.ofResult, Reply.ofContent, hv] at h

theorem unsendable_of_status {document : Except Fault Value}
    (h : (Reply.ofResult (sent document)).status ≠ 200) : Unsendable document := by
  rintro v rfl
  exact isSendable_of_status h

/-- A user is kept as it is. -/
theorem keepUser_self (hown : OwnIds s) {id : String} {u : VirtualUser}
    (huser : s.user? id = some u) : s.keepUser u = s := by
  have hid : u.id = id := hown (id, u) (mem_of_lookup huser)
  rw [State.keepUser, hid, assign_of_lookup huser]

theorem Effect.failed {result : Except Refusal Content} (heffect : Effect x s route result s')
    (hown : OwnIds s) (hfailed : (Reply.ofResult result).status ≠ 200) :
    Traceless (some route) s s' ∨
      (Reply.ofResult result).status = 500 ∧ Committed x s route s' := by
  -- A failure after an effect can only be the response: what is sent is written last.
  cases heffect with
  | asked _ _ => exact .inl (.refl _ s)
  | refused _ _ => exact .inl (.refl _ s)
  | loadRefused _ => exact .inl ⟨⟨rfl, rfl, rfl, rfl, .inl rfl⟩, .inr rfl⟩
  | loaded l source environment =>
    exact .inr ⟨(status_plain _).resolve_left hfailed,
      .loaded l source environment (isSendable_of_status hfailed)⟩
  | drawFailed hsource hdraw =>
    exact .inl ⟨⟨rfl, rfl, rfl, rfl, .inr ⟨_, _, hsource, rfl, .of_draw hdraw⟩⟩, .inl rfl⟩
  | created hloaded hdraws hstart =>
    refine .inr ⟨(status_sent _).resolve_left hfailed,
      .created hdraws ?_ (unsendable_of_status hfailed)⟩
    rw [hstart]
    rfl
  | broke hdue hrespond =>
    rcases VirtualUser.respond_error hrespond with rfl | ⟨t, extracted, f, -, hextract, ht, rfl⟩
    · rw [keepUser_self hown hdue.user]
      exact .inl (.refl _ s)
    · exact .inr ⟨status_hidden _, .bound hdue hextract ht⟩
  | stepped hdue hrespond =>
    exact .inr ⟨(status_sent _).resolve_left hfailed,
      .stepped hdue hrespond (unsendable_of_status hfailed)⟩
  | deleted huser =>
    exact .inr ⟨(status_plain _).resolve_left hfailed,
      .deleted huser (isSendable_of_status hfailed)⟩

/-- A request that is not answered with a success leaves no trace but the status of a refused
    load, unless the request failed because its answer could not be sent or its transition ended
    with a fault. -/
theorem failed_traceless_unless_committed (h : Reachable W s) (x : Supply F) (r : W.Request)
    (hfailed : (serve W x r s).1.status ≠ 200) :
    Traceless (W.route? r) s (serve W x r s).2 ∨
      (serve W x r s).1.status = 500 ∧
        ∃ route, W.route? r = some route ∧ Committed x s route (serve W x r s).2 := by
  cases hroute : W.route? r with
  | none =>
    rw [serve_of_no_route hroute]
    exact .inl (.refl _ s)
  | some route =>
    obtain ⟨body, hserve⟩ := serve_of_route (F := F) hroute
    rw [hserve] at hfailed ⊢
    refine ((follow_effect x route body s).failed h.ownIds hfailed).imp id ?_
    rintro ⟨hstatus, hcommitted⟩
    exact ⟨hstatus, route, rfl, hcommitted⟩

/-! ## A step that is taken and not told -/

/-- The shop with one user in it. -/
def openShop (transform : String) : State .small :=
  (serve .plain (supplyFor "ada") enterShop
    (serve .plain (supplyFor "") (loadShop transform) .initial).2).2

theorem openShop_reachable (transform : String) : Reachable .plain (openShop transform) := by
  unfold openShop
  exact (Reachable.initial.request _ _).request _ _

/-- A request to load nothing. -/
def loadNothing : Framework.PlainRequest :=
  ⟨"POST", "/api/load", some (.object [("journey", .object [])])⟩

/-- A load of nothing is refused, and the user stays. -/
theorem openShop_traceless :
    (serve .plain (supplyFor "") loadNothing (openShop "value")).1.status = 400 ∧
    Traceless (some .load) (openShop "value")
      (serve .plain (supplyFor "") loadNothing (openShop "value")).2 := by
  have hstatus : (serve .plain (supplyFor "") loadNothing (openShop "value")).1.status = 400 := by
    decide +kernel
  have hroute : Framework.plain.route? loadNothing = some .load := by
    decide +kernel
  rcases failed_traceless_unless_committed (openShop_reachable "value") (supplyFor "")
    loadNothing (by simp [hstatus]) with htraceless | ⟨hfault, -⟩
  · exact ⟨hstatus, hroute ▸ htraceless⟩
  · simp [hstatus] at hfault

/-- An extracted ellipsis cannot be sent, but its step is counted. -/
theorem failed_not_traceless : ¬ ∀ (F : Faker) (W : Framework) (s : State F) (x : Supply F)
    (r : W.Request), Reachable W s → (serve W x r s).1.status ≠ 200 →
      Traceless (W.route? r) s (serve W x r s).2 := by
  intro h
  have htraceless := h .small .plain (openShop "...") (supplyFor "") (answerCreate "ada")
    (openShop_reachable "...") (by decide +kernel)
  have hcounted : (serve .plain (supplyFor "") (answerCreate "ada") (openShop "...")).2.counters
      ≠ (openShop "...").counters := by
    decide +kernel
  exact hcounted htraceless.unchanged.counters

end Service

end ApiJourney
