-- SUMMARY: The counts of the decision service, told by the users created since the last load.
import ApiJourney.Proofs.Profile.Assignment
import ApiJourney.Proofs.Service.Effects

/-!
# Accounting

A ledger is kept beside the service: it remembers every user that was created since the last
load, also those that were deleted, as it was last. All that the service counts can be told from
the ledger, and the users that it holds are those of the ledger that were not deleted.
-/

namespace ApiJourney.Service

open Distributor

/-! ## Ledgers -/

/-- The users created since the last load, by their identifiers, each as it was last; and the
    identifiers of those that were deleted. -/
structure Ledger where
  users : List (String × VirtualUser)
  deleted : List String

namespace Ledger

variable {F : Faker}

def empty : Ledger := ⟨[], []⟩

def ids (l : Ledger) : List String :=
  l.users.map Prod.fst

/-- A user as the service holds it. -/
def note (l : Ledger) (s : State F) (id : String) : Ledger :=
  match s.user? id with
  | some u => { l with users := assign id u l.users }
  | none => l

/-- The ledger behind a request for a route that was answered with a success. -/
def record (l : Ledger) (x : Supply F) (s : State F) : Route → Ledger
  | .load => empty
  | .createUser => l.note s x.userId
  | .stepResponse user _ => l.note s user
  | .deleteUser user => { l with deleted := user :: l.deleted }
  | _ => l

/-- The ledger behind a request, with the reply to it and the state behind it. -/
def after (l : Ledger) (W : Framework) (x : Supply F) (r : W.Request) (reply : Reply)
    (s : State F) : Ledger :=
  match W.route? r with
  | some route => if reply.status = 200 then l.record x s route else l
  | none => l

end Ledger

variable {F : Faker} {W : Framework}

theorem Ledger.record_of_onlyAsks {l : Ledger} {x : Supply F} {s : State F} {route : Route}
    (h : route.onlyAsks = true) : l.record x s route = l := by
  cases route <;> first | rfl | cases h

/-- A ledger and a state behind requests none of which failed without a reason for the client.
    A new user gets an identifier that no user has had since the last load. -/
inductive Session (W : Framework) : Ledger → State F → Prop where
  | start : Session W .empty .initial
  | request {l : Ledger} {s : State F} (x : Supply F) (r : W.Request) (h : Session W l s)
      (hfresh : W.route? r = some .createUser → x.userId ∉ l.ids)
      (hanswered : (serve W x r s).1.status ≠ 500) :
      Session W (l.after W x r (serve W x r s).1 (serve W x r s).2) (serve W x r s).2

/-! ## Sums over users -/

theorem countP_eq_sum (p : α → Bool) (xs : List α) :
    xs.countP p = (xs.map fun x => if p x then 1 else 0).sum := by
  induction xs with
  | nil => rfl
  | cons x xs ih => rw [List.countP_cons, List.map_cons, List.sum_cons, ih, Nat.add_comm]

/-- What is told of the users of a ledger: how many they are, how many of them are finished, the
    steps that they have executed, and the errors that they have recorded. -/
def Ledger.counters (l : Ledger) : Counters where
  created := l.users.length
  finished := l.users.countP fun e => e.2.isFinished
  steps := (l.users.map fun e => e.2.state.executed.length).sum
  extractionErrors := (l.users.map fun e => e.2.errors.length).sum

/-- A state that its ledger tells. -/
structure Accounted (l : Ledger) (s : State F) : Prop where
  counters : s.counters = l.counters
  /-- The users under way are those that were not deleted. -/
  tracked : s.users = l.users.filter fun e => !l.deleted.contains e.1
  deleted_known : ∀ id ∈ l.deleted, id ∈ l.ids
  nodup_ids : l.ids.Nodup
  own_id : ∀ e ∈ l.users, e.2.id = e.1
  /-- No user has executed a step twice. -/
  nodup_executed : ∀ e ∈ l.users, e.2.state.executed.Nodup

namespace Accounted

variable {l : Ledger} {s : State F} {x : Supply F}

theorem start : Accounted .empty (.initial : State F) :=
  ⟨rfl, rfl, List.forall_mem_nil _, List.nodup_nil, List.forall_mem_nil _, List.forall_mem_nil _⟩

theorem load (journey : LoadedJourney) (source : Option (Distributor F)) (environment : Entries) :
    Accounted .empty (State.load journey source environment) :=
  ⟨rfl, rfl, List.forall_mem_nil _, List.nodup_nil, List.forall_mem_nil _, List.forall_mem_nil _⟩

/-- Neither status nor source are told by the ledger. -/
theorem of_frame {s' : State F} (h : Accounted l s) (hcounters : s'.counters = s.counters)
    (husers : s'.users = s.users) : Accounted l s' :=
  ⟨hcounters ▸ h.counters, husers ▸ h.tracked, h.deleted_known, h.nodup_ids, h.own_id,
    h.nodup_executed⟩

theorem lookup_of_user? (h : Accounted l s) {id : String} {u : VirtualUser}
    (hu : s.user? id = some u) : l.users.lookup id = some u ∧ id ∉ l.deleted := by
  have hmem : (id, u) ∈ s.users := mem_of_lookup hu
  rw [h.tracked, List.mem_filter] at hmem
  exact ⟨lookup_of_mem h.nodup_ids hmem.1, by simpa using hmem.2⟩

theorem addUser (h : Accounted l s) {u : VirtualUser} (hid : u.id = x.userId)
    (hexecuted : u.state.executed = []) (herrors : u.errors = []) (hfresh : x.userId ∉ l.ids) :
    Accounted (l.note (s.addUser u) x.userId) (s.addUser u) := by
  have hnote : l.note (s.addUser u) x.userId
      = { l with users := l.users ++ [(x.userId, u)] } := by
    simp only [Ledger.note, State.user?, State.addUser, hid, lookup_assign_self]
    rw [assign_of_not_mem hfresh]
  have hkept : (!l.deleted.contains x.userId) = true := by
    simpa using fun hdeleted => hfresh (h.deleted_known _ hdeleted)
  -- The new user stands behind all the others, and none of them is touched.
  rw [hnote]
  exact {
    counters := by
      simp [State.addUser, h.counters, Ledger.counters, VirtualUser.isFinished, hexecuted, herrors]
    tracked := by
      rw [State.addUser, hid, h.tracked,
        ← filter_assign (p := fun id => !l.deleted.contains id) hkept,
        assign_of_not_mem hfresh]
    deleted_known := by
      intro id hid
      simpa [Ledger.ids] using .inl (by simpa [Ledger.ids] using h.deleted_known id hid)
    nodup_ids := by
      have hnodup := nodup_keys_assign x.userId u h.nodup_ids
      rwa [assign_of_not_mem hfresh] at hnodup
    own_id := by
      intro e he
      rcases List.mem_append.1 he with he | he
      · exact h.own_id e he
      · rw [List.mem_singleton.1 he]
        exact hid
    nodup_executed := by
      intro e he
      rcases List.mem_append.1 he with he | he
      · exact h.nodup_executed e he
      · rw [List.mem_singleton.1 he, hexecuted]
        exact List.nodup_nil }

/-- A step that was due for a user was not executed, and the user is not finished. -/
theorem not_mem_of_due {user step : String} {u : VirtualUser} {journey : LoadedJourney}
    (hdue : Due s user step u journey) :
    step ∉ u.state.executed ∧ u.isFinished = false := by
  rcases Journey.shouldExecute_iff.1 hdue.due with ⟨hnil, -⟩ | ⟨hnew, hnext⟩
  · simp [hnil, VirtualUser.isFinished]
  · exact ⟨hnew, by simp [VirtualUser.isFinished, hnext]⟩

theorem recordStep (h : Accounted l s) {user step : String} {u u' : VirtualUser}
    {journey : LoadedJourney} {r : Response} {o : StepOutcome} (hdue : Due s user step u journey)
    (hrespond : u.respond ⟨journey, none⟩ step r = (.ok o, u')) :
    Accounted (l.note (s.recordStep u' o) user) (s.recordStep u' o) := by
  obtain ⟨hlookup, hkept⟩ := h.lookup_of_user? hdue.user
  obtain ⟨hsame, hexecuted, herrors⟩ := VirtualUser.respond_ok hrespond
  obtain ⟨hnew, hunfinished⟩ := not_mem_of_due hdue
  have hmem : (user, u) ∈ l.users := mem_of_lookup hlookup
  have hid : u'.id = user := hsame.trans (h.own_id _ hmem)
  have hknown : user ∈ l.users.map Prod.fst := List.mem_map_of_mem hmem
  have hnote : l.note (s.recordStep u' o) user = { l with users := assign user u' l.users } := by
    simp only [Ledger.note, State.user?, State.recordStep, hid, lookup_assign_self]
  have hids : (assign user u' l.users).map Prod.fst = l.ids := keys_assign_of_mem hknown u'
  rw [hnote]
  exact {
    counters := by
      -- The sums over all users change by what the step adds to this one.
      have hlength := congrArg List.length hids
      have hsteps := sum_assign (fun v : VirtualUser => v.state.executed.length) hlookup u'
      have hrecorded := sum_assign (fun v : VirtualUser => v.errors.length) hlookup u'
      have hfinished := sum_assign (fun v : VirtualUser => if v.isFinished then 1 else 0) hlookup u'
      simp only [hexecuted, herrors, hunfinished, List.length_append, List.length_singleton,
        List.length_map, Ledger.ids, Bool.false_eq_true, if_false]
        at hlength hsteps hrecorded hfinished
      simp only [State.recordStep, h.counters, Ledger.counters, countP_eq_sum, Counters.mk.injEq]
      refine ⟨hlength.symm, ?_, ?_, ?_⟩ <;> omega
    tracked := by
      rw [State.recordStep, hid, h.tracked]
      exact (filter_assign (p := fun id => !l.deleted.contains id) (by simpa using hkept) u'
        l.users).symm
    deleted_known := by
      intro id hdeleted
      rw [Ledger.ids, hids]
      exact h.deleted_known id hdeleted
    nodup_ids := by
      rw [Ledger.ids, hids]
      exact h.nodup_ids
    own_id := by
      intro e he
      rcases mem_assign he with rfl | he
      · exact hid
      · exact h.own_id e he
    nodup_executed := by
      intro e he
      rcases mem_assign he with rfl | he
      · rw [hexecuted, ← List.concat_eq_append]
        exact (h.nodup_executed _ hmem).concat hnew
      · exact h.nodup_executed e he }

theorem removeUser (h : Accounted l s) {id : String} {u : VirtualUser}
    (huser : s.user? id = some u) :
    Accounted { l with deleted := id :: l.deleted } (s.removeUser id) where
  counters := h.counters
  tracked := by
    rw [State.removeUser, h.tracked, List.filter_filter]
    refine List.filter_congr fun e _ => ?_
    rw [List.contains_cons, Bool.not_or]
    rfl
  deleted_known := by
    refine List.forall_mem_cons.2 ⟨?_, h.deleted_known⟩
    rw [Ledger.ids, ← isSome_lookup_iff, (h.lookup_of_user? huser).1]
    rfl
  nodup_ids := h.nodup_ids
  own_id := h.own_id
  nodup_executed := h.nodup_executed

/-! ## Sessions -/

theorem effect (h : Accounted l s) {route : Route} {result : Except Refusal Content} {s' : State F}
    (heffect : Effect x s route result s') (hfresh : route = .createUser → x.userId ∉ l.ids)
    (hanswered : (Reply.ofResult result).status ≠ 500) :
    Accounted (if (Reply.ofResult result).status = 200 then l.record x s' route else l) s' := by
  -- An answer of 200 is noted in the ledger; any other leaves it, and the state with it.
  cases heffect with
  | asked hasks result =>
    rw [Ledger.record_of_onlyAsks hasks, ite_self]
    exact h
  | refused route e =>
    rw [if_neg (status_error_ne e)]
    exact h
  | loadRefused hverdict =>
    rw [if_neg (status_error_ne _)]
    exact h.of_frame rfl rfl
  | loaded journey source environment =>
    rw [if_pos ((status_plain _).resolve_right hanswered)]
    exact load journey source environment
  | drawFailed hsource hdraw =>
    rw [if_neg (status_error_ne _)]
    exact h.of_frame rfl rfl
  | @created _ _ source _ hloaded hdraws hstart =>
    rw [if_pos ((status_sent _).resolve_right hanswered)]
    have hsource : Accounted l { s with source } := h.of_frame rfl rfl
    refine hsource.addUser ?_ ?_ ?_ (hfresh rfl)
    all_goals
      rw [hstart]
      rfl
  | broke hdue hrespond => exact absurd (status_hidden _) hanswered
  | stepped hdue hrespond =>
    rw [if_pos ((status_sent _).resolve_right hanswered)]
    exact h.recordStep hdue hrespond
  | deleted huser =>
    rw [if_pos ((status_plain _).resolve_right hanswered)]
    exact h.removeUser huser

theorem request (h : Accounted l s) (x : Supply F) (r : W.Request)
    (hfresh : W.route? r = some .createUser → x.userId ∉ l.ids)
    (hanswered : (serve W x r s).1.status ≠ 500) :
    Accounted (l.after W x r (serve W x r s).1 (serve W x r s).2) (serve W x r s).2 := by
  rw [Ledger.after]
  cases hroute : W.route? r with
  | none => rwa [serve_of_no_route hroute]
  | some route =>
    obtain ⟨body, hserve⟩ := serve_of_route (F := F) hroute
    rw [hserve] at hanswered ⊢
    exact h.effect (follow_effect x route body s) (fun heq => hfresh (heq ▸ hroute)) hanswered

theorem session (h : Session W l s) : Accounted l s := by
  induction h with
  | start => exact start
  | request x r _ hfresh hanswered ih => exact ih.request x r hfresh hanswered

end Accounted

theorem Session.of_load {l : Ledger} {s : State F} (h : Session W l s) {x : Supply F}
    {r : W.Request} (hroute : W.route? r = some .load) (hloaded : (serve W x r s).1.status = 200) :
    Session W .empty (serve W x r s).2 := by
  have hsession := h.request x r (fun huser => by simp [hroute] at huser) (by simp [hloaded])
  have hempty : l.after W x r (serve W x r s).1 (serve W x r s).2 = .empty := by
    simp [Ledger.after, hroute, hloaded, Ledger.record]
  rwa [hempty] at hsession

/-- Of a load that was refused at most the status remains. -/
theorem Effect.frame_of_refusedLoad {x : Supply F} {s s' : State F} {result : Except Refusal Content}
    (h : Effect x s .load result s') (hanswered : (Reply.ofResult result).status ≠ 500)
    (hrefused : (Reply.ofResult result).status ≠ 200) : s' = s ∨ s' = s.markFailing := by
  cases h with
  | asked hasks result => cases hasks
  | refused route e => exact .inl rfl
  | loadRefused hverdict => exact .inr rfl
  | loaded journey source environment =>
    exact absurd ((status_plain _).resolve_right hanswered) hrefused

/-- After any requests the counts of the service are those of its ledger, and its users are those
    that were created since the last load and not deleted. A load starts a new ledger, and one
    that is refused leaves all but the status as it was. -/
theorem session_accounted {l : Ledger} {s : State F} (h : Session W l s) :
    Accounted l s ∧
      ∀ (x : Supply F) (r : W.Request), W.route? r = some .load →
        (serve W x r s).1.status ≠ 500 →
        ((serve W x r s).1.status = 200 →
          (serve W x r s).2.counters = .zero ∧ (serve W x r s).2.users = [] ∧
            Session W .empty (serve W x r s).2) ∧
        ((serve W x r s).1.status ≠ 200 →
          (serve W x r s).2 = s ∨ (serve W x r s).2 = s.markFailing) := by
  refine ⟨.session h, fun x r hroute hanswered => ⟨fun hloaded => ?_, fun hrefused => ?_⟩⟩
  · have hsession := h.of_load hroute hloaded
    have haccounted := Accounted.session hsession
    exact ⟨haccounted.counters, haccounted.tracked, hsession⟩
  · obtain ⟨body, hserve⟩ := serve_of_route (F := F) hroute
    rw [hserve] at hanswered hrefused ⊢
    exact (load_effect x body s).frame_of_refusedLoad hanswered hrefused

/-! ## A user who comes and goes -/

/-- The user has finished and is deleted, and still counts. -/
theorem shop_accounted :
    ∃ (l : Ledger) (s : State .small), Session .plain l s ∧ l.ids = ["ada"] ∧
      l.deleted = ["ada"] ∧ s.counters = ⟨1, 1, 1, 0⟩ ∧ Accounted l s := by
  have hstart : Session .plain .empty (.initial : State .small) := .start
  have hload := hstart.request (supplyFor "") (loadShop "value + 1")
    (by decide +kernel) (by decide +kernel)
  have henter := hload.request (supplyFor "ada") enterShop (by decide +kernel) (by decide +kernel)
  have hanswer := henter.request (supplyFor "") (answerCreate "ada")
    (by decide +kernel) (by decide +kernel)
  have hleave := hanswer.request (supplyFor "") (leaveShop "ada")
    (by decide +kernel) (by decide +kernel)
  exact ⟨_, _, hleave, by decide +kernel, by decide +kernel, by decide +kernel,
    (session_accounted hleave).1⟩

end ApiJourney.Service
