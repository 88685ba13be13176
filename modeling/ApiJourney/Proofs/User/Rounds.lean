-- SUMMARY: The rounds of a virtual user's run, what it asks for in them, and when it stops.
import ApiJourney.Proofs.Flow.Run
import ApiJourney.Proofs.Flow.ThinkTime
import ApiJourney.Proofs.User.Bindings
import ApiJourney.User.Simulation

/-!
# Rounds of a run

A run is a list of rounds: in each one a step that is due is asked for, answered and processed.
Each round executes a declared step for the first time, so there are no more rounds than steps,
however a journey goes back, and the limit on steps makes no difference once it admits them all.
-/

namespace ApiJourney.Simulation

open Journey VirtualUser

variable {σ : Type} {c : Course} {clock : Clock} {respond : Responder σ} {o : Options}
  {u u' : VirtualUser} {w w' : World σ}

/-! ## Rounds -/

/-- What happens between a user and a responder in a round: a request, and the outcome of the
    step once it was answered. -/
structure Exchange where
  request : RenderedRequest
  outcome : StepOutcome

/-- A round: the next step is due and within the limit; its request is prepared and answered, the
    answer processed, and the think time behind it waited for. -/
inductive Round (c : Course) (clock : Clock) (respond : Responder σ) (o : Options) :
    VirtualUser × World σ → Exchange → VirtualUser × World σ → Prop where
  | exchange {u u' : VirtualUser} {w w' : World σ} {memory : σ} {id : String} {s : Step}
      {q : RenderedRequest} {r : Response} {outcome : StepOutcome} :
      u.state.nextStep = some id →
      (u.state.executed.length : Int) < o.maxSteps →
      c.journey.shouldExecute u.state id = true →
      u.prepare c (clock w.moments) id = .ok q →
      respond q w.memory = (.ok r, memory) →
      u.respond c id r = (.ok outcome, u') →
      c.step id = .ok s →
      wait c o s (w.answered memory) = .ok w' →
      Round c clock respond o (u, w) ⟨q, outcome⟩ (u', w')

/-- Rounds one after the other, with what was exchanged in them. -/
inductive Rounds (c : Course) (clock : Clock) (respond : Responder σ) (o : Options) :
    VirtualUser × World σ → List Exchange → VirtualUser × World σ → Prop where
  | none {a : VirtualUser × World σ} : Rounds c clock respond o a [] a
  | more {a b d : VirtualUser × World σ} {e : Exchange} {es : List Exchange} :
      Round c clock respond o a e b →
      Rounds c clock respond o b es d →
      Rounds c clock respond o a (e :: es) d

/-- A user runs no further: no step is next, or there were enough, or the next one is not due. -/
def Stopped (c : Course) (o : Options) (u : VirtualUser) : Prop :=
  ∀ id, u.state.nextStep = some id →
    o.maxSteps ≤ u.state.executed.length ∨ c.journey.shouldExecute u.state id = false

/-! ## What a round changes -/

theorem step_found {id : String} {s : Step} (h : c.step id = .ok s) :
    s ∈ c.journey.steps ∧ s.id = id := by
  have hfound := step_eq_ok.1 h
  exact ⟨List.mem_of_find?_eq_some hfound, by simpa using List.find?_some hfound⟩

/-- A response taken without a failure is processed by the step. -/
theorem respond_eq_ok {id : String} {s : Step} {r : Response} {outcome : StepOutcome}
    (hs : c.step id = .ok s) (h : u.respond c id r = (.ok outcome, u')) :
    c.journey.process s r u.state = (.ok outcome, u'.state) := by
  unfold VirtualUser.respond at h
  rw [hs] at h
  dsimp only at h
  split at h
  · cases (Prod.mk.inj h).1
  · next hprocess =>
    obtain ⟨hok, rfl⟩ := Prod.mk.inj h
    cases hok
    exact hprocess

theorem process_outcome {j : Journey} {s : Step} {r : Response} {state state' : FlowState}
    {outcome : StepOutcome} (h : j.process s r state = (.ok outcome, state')) :
    state'.executed = state.executed ++ [s.id] ∧ state'.nextStep = outcome.nextStep ∧
      outcome.transition.nextStep = outcome.nextStep := by
  unfold process at h
  split at h
  · cases (Prod.mk.inj h).1
  · split at h
    · cases (Prod.mk.inj h).1
    · obtain ⟨houtcome, rfl⟩ := Prod.mk.inj h
      cases houtcome
      exact ⟨rfl, rfl, rfl⟩

theorem prepare_eq {id : String} {s : Step} (hs : c.step id = .ok s) (u : VirtualUser)
    (fresh : Fresh) : u.prepare c fresh id =
      RenderedRequest.render c.journey s (Variables.context fresh [u.state.bindings])
        (RenderedRequest.baseOf c.loaded.base c.base) := by
  rw [prepare, hs]
  rfl

theorem prepare_step {id : String} {s : Step} {q : RenderedRequest} {fresh : Fresh}
    (hs : c.step id = .ok s) (h : u.prepare c fresh id = .ok q) : q.step = s.id := by
  rw [prepare_eq hs] at h
  obtain ⟨d, -, hread⟩ := bind_eq_ok.1 h
  have hread := accepted_eq_ok.1 hread
  simp only [RenderedRequest.ofDraft, Schema.Verdict.seq_eq_accepted,
    Schema.Verdict.map_eq_accepted] at hread
  obtain ⟨_, _, ⟨_, _, ⟨_, _, ⟨_, _, rfl⟩, _, rfl⟩, _, rfl⟩, _, rfl⟩ := hread
  rfl

/-- What a round does to the progress of a user: the step that was asked for is executed, and the
    next one is that of the transition. -/
structure Advances (c : Course) (u : VirtualUser) (e : Exchange) (u' : VirtualUser) : Prop where
  due : e.request.step ∉ u.state.executed
  declared : e.request.step ∈ c.journey.stepIds
  executed : u'.state.executed = u.state.executed ++ [e.request.step]
  nextStep : u'.state.nextStep = e.outcome.transition.nextStep
  gated : c.journey.GatedStep u.state u'.state

theorem not_mem_of_shouldExecute {j : Journey} {s : FlowState} {id : String}
    (h : j.shouldExecute s id = true) : id ∉ s.executed := by
  rcases shouldExecute_iff.1 h with ⟨hnil, -⟩ | ⟨hfresh, -⟩
  · simp [hnil]
  · exact hfresh

theorem Round.advances {e : Exchange} (h : Round c clock respond o (u, w) e (u', w')) :
    Advances c u e u' := by
  cases h with
  | @exchange _ _ _ _ memory id s q r outcome hnext _ hdue hprepare _ hrespond hs _ =>
    obtain ⟨hmem, hid⟩ := step_found hs
    have hprocess := respond_eq_ok hs hrespond
    obtain ⟨hexecuted, hnextStep, htransition⟩ := process_outcome hprocess
    have hstep : q.step = s.id := prepare_step hs hprepare
    refine ⟨?_, ?_, ?_, ?_, ?_⟩
    · rw [hstep, hid]
      exact not_mem_of_shouldExecute hdue
    · rw [hstep]
      exact List.mem_map_of_mem hmem
    · rw [hexecuted, hstep]
    · rw [hnextStep, htransition]
    · exact .process s r hmem (hid.symm ▸ hdue) hprocess

/-! ## How many rounds there are -/

/-- How many of the declared steps were not executed. -/
def pending (c : Course) (u : VirtualUser) : Nat :=
  (c.journey.stepIds.filter fun id => id ∉ u.state.executed).length

theorem pending_le (c : Course) (u : VirtualUser) : pending c u ≤ c.journey.steps.length := by
  have hle := List.length_filter_le (fun id => decide (id ∉ u.state.executed)) c.journey.stepIds
  rwa [Journey.stepIds, List.length_map] at hle

theorem Advances.pending_lt {e : Exchange} (h : Advances c u e u') :
    pending c u' < pending c u := by
  have hboth : (c.journey.stepIds.filter fun id => id ∉ u'.state.executed) =
      (c.journey.stepIds.filter fun id => id ∉ u.state.executed).filter
        fun id => id ≠ e.request.step := by
    rw [List.filter_filter]
    refine List.filter_congr fun id _ => ?_
    simp [h.executed, and_comm]
  rw [pending, pending, hboth, List.length_filter_lt_length_iff_exists]
  exact ⟨e.request.step, List.mem_filter.2 ⟨h.declared, by simpa using h.due⟩, by simp⟩

/-- As many steps can be executed as are declared. -/
def Room (c : Course) (u : VirtualUser) : Prop :=
  u.state.executed.length + pending c u ≤ c.journey.steps.length

theorem Advances.room {e : Exchange} (h : Advances c u e u') (hu : Room c u) : Room c u' := by
  have hlt := h.pending_lt
  unfold Room at hu ⊢
  rw [h.executed, List.length_append, List.length_singleton]
  omega

/-! ## What rounds change -/

namespace Rounds

variable {e : Exchange} {es : List Exchange}

theorem cons_iff : Rounds c clock respond o (u, w) (e :: es) (u', w') ↔
    ∃ v x, Round c clock respond o (u, w) e (v, x) ∧
      Rounds c clock respond o (v, x) es (u', w') := by
  constructor
  · intro h
    cases h with
    | @more _ b _ _ _ hround hrounds => exact ⟨b.1, b.2, hround, hrounds⟩
  · rintro ⟨v, x, hround, hrounds⟩
    exact .more hround hrounds

/-- What every round keeps, rounds keep. -/
theorem keeps {P : VirtualUser → Prop}
    (hround : ∀ {u u' : VirtualUser} {w w' : World σ} {e : Exchange},
      Round c clock respond o (u, w) e (u', w') → P u → P u')
    (h : Rounds c clock respond o (u, w) es (u', w')) (hu : P u) : P u' := by
  induction es generalizing u w with
  | nil =>
    cases h
    exact hu
  | cons e es ih =>
    obtain ⟨v, x, hfirst, hrest⟩ := cons_iff.1 h
    exact ih hrest (hround hfirst hu)

theorem executed (h : Rounds c clock respond o (u, w) es (u', w')) :
    u'.state.executed = u.state.executed ++ es.map (·.request.step) := by
  induction es generalizing u w with
  | nil =>
    cases h
    simp
  | cons e es ih =>
    obtain ⟨v, x, hround, hrounds⟩ := cons_iff.1 h
    rw [ih hrounds, hround.advances.executed]
    simp

theorem room (h : Rounds c clock respond o (u, w) es (u', w')) (hu : Room c u) : Room c u' :=
  h.keeps (fun hround hu => hround.advances.room hu) hu

theorem nodup (h : Rounds c clock respond o (u, w) es (u', w')) (hu : u.state.executed.Nodup) :
    u'.state.executed.Nodup := by
  refine h.keeps (P := fun u => u.state.executed.Nodup) (fun hround hu => ?_) hu
  rw [hround.advances.executed, ← List.concat_eq_append]
  exact hu.concat hround.advances.due

theorem gatedRun (h : Rounds c clock respond o (u, w) es (u', w')) :
    c.journey.GatedRun u.state u'.state :=
  h.keeps (P := fun v => c.journey.GatedRun u.state v.state)
    (fun hround hv => hv.tail hround.advances.gated) .refl

/-- Behind rounds the next step is that of the last transition. -/
theorem nextStep (h : Rounds c clock respond o (u, w) es (u', w'))
    (he : es.getLast? = some e) : u'.state.nextStep = e.outcome.transition.nextStep := by
  induction es generalizing u w with
  | nil => cases he
  | cons e' es ih =>
    obtain ⟨v, x, hround, hrounds⟩ := cons_iff.1 h
    cases es with
    | nil =>
      cases hrounds
      cases he
      exact hround.advances.nextStep
    | cons e'' es => exact ih hrounds (by rwa [List.getLast?_cons_cons] at he)

theorem executed_le (h : Rounds c clock respond o (u, w) es (u', w'))
    (hu : (u.state.executed.length : Int) ≤ o.maxSteps) :
    (u'.state.executed.length : Int) ≤ o.maxSteps := by
  refine h.keeps (P := fun u => (u.state.executed.length : Int) ≤ o.maxSteps)
    (fun hround _ => ?_) hu
  rw [hround.advances.executed, List.length_append, List.length_singleton]
  cases hround with
  | exchange _ hlimit => omega

end Rounds

/-! ## Runs -/

theorem Round.not_stopped {e : Exchange} (h : Round c clock respond o (u, w) e (u', w')) :
    ¬ Stopped c o u := by
  intro hstopped
  cases h with
  | exchange hnext hlimit hdue =>
    rcases hstopped _ hnext with hmax | hdone
    · omega
    · rw [hdue] at hdone
      cases hdone

/-- Where a user has stopped there are no rounds. -/
theorem Rounds.of_stopped {es : List Exchange} (hstopped : Stopped c o u)
    (h : Rounds c clock respond o (u, w) es (u', w')) : u' = u ∧ w' = w := by
  cases es with
  | nil =>
    cases h
    exact ⟨rfl, rfl⟩
  | cons e es =>
    obtain ⟨v, x, hround, -⟩ := cons_iff.1 h
    exact absurd hstopped hround.not_stopped

theorem stopped_iff {id : String} (hnext : u.state.nextStep = some id) :
    Stopped c o u ↔
      (o.maxSteps ≤ u.state.executed.length || !c.journey.shouldExecute u.state id) = true := by
  rw [Stopped, hnext]
  simp

/-- Where a user has stopped its run ends. -/
theorem runFrom_stopped (h : Stopped c o u) (fuel : Nat) :
    runFrom c clock respond o (fuel + 1) u.state.nextStep u w = .ok (u, w) := by
  cases hnext : u.state.nextStep with
  | none => rfl
  | some id => rw [runFrom, if_pos ((stopped_iff hnext).1 h)]

/-- A user that has not stopped has a next step that is due and within the limit. -/
theorem due_of_not_stopped (h : ¬ Stopped c o u) : ∃ id, u.state.nextStep = some id ∧
    (u.state.executed.length : Int) < o.maxSteps ∧ c.journey.shouldExecute u.state id = true := by
  unfold Stopped at h
  push Not at h
  obtain ⟨id, hnext, hlimit, hdue⟩ := h
  exact ⟨id, hnext, hlimit, by simpa using hdue⟩

/-- A round is what a run does first. -/
theorem runFrom_round {e : Exchange} (h : Round c clock respond o (u, w) e (u', w'))
    (fuel : Nat) : runFrom c clock respond o (fuel + 1) u.state.nextStep u w =
      runFrom c clock respond o fuel u'.state.nextStep u' w' := by
  have hrunning := h.not_stopped
  cases h with
  | @exchange _ _ _ _ memory id s q r outcome hnext _ _ hprepare hasked hrespond hs hwait =>
    obtain ⟨-, hnextStep, -⟩ := process_outcome (respond_eq_ok hs hrespond)
    rw [hnext, runFrom, if_neg (mt (stopped_iff hnext).2 hrunning), hprepare, hnextStep]
    simp only [bind, Except.bind, hasked, hrespond, hs, hwait, orFault, Except.mapError]

/-- A user that has not stopped does a round, or its run fails. -/
theorem exists_round {fuel : Nat} {b : VirtualUser × World σ} (hrunning : ¬ Stopped c o u)
    (h : runFrom c clock respond o (fuel + 1) u.state.nextStep u w = .ok b) :
    ∃ e u' w', Round c clock respond o (u, w) e (u', w') := by
  obtain ⟨id, hnext, hlimit, hdue⟩ := due_of_not_stopped hrunning
  rw [hnext, runFrom, if_neg (mt (stopped_iff hnext).2 hrunning)] at h
  obtain ⟨q, hprepare, h⟩ := bind_eq_ok.1 h
  cases hasked : respond q w.memory with
  | mk answer memory =>
    simp only [hasked] at h
    obtain ⟨r, rfl, hanswered⟩ := bind_eq_ok.1 h
    obtain ⟨outcome, hrespond, h⟩ := bind_eq_ok.1 hanswered
    obtain ⟨s, hs, h⟩ := bind_eq_ok.1 h
    obtain ⟨w', hwait, -⟩ := bind_eq_ok.1 h
    exact ⟨⟨q, outcome⟩, (u.respond c id r).2, w', .exchange hnext hlimit hdue hprepare hasked
      (Prod.ext hrespond rfl) hs (mapError_eq_ok.1 hwait)⟩

/-- As long as there is fuel for all steps that are pending, a run does rounds until it stops. -/
theorem runFrom_eq_ok {fuel : Nat} (hfuel : pending c u < fuel) :
    runFrom c clock respond o fuel u.state.nextStep u w = .ok (u', w') ↔
      ∃ es, Rounds c clock respond o (u, w) es (u', w') ∧ Stopped c o u' := by
  -- Every round leaves less pending, so the fuel outlasts the rounds.
  induction fuel generalizing u w with
  | zero => exact absurd hfuel (Nat.not_lt_zero _)
  | succ fuel ih =>
    by_cases hstopped : Stopped c o u
    · rw [runFrom_stopped hstopped]
      constructor
      · intro h
        cases h
        exact ⟨[], .none, hstopped⟩
      · rintro ⟨es, hrounds, -⟩
        obtain ⟨rfl, rfl⟩ := hrounds.of_stopped hstopped
        rfl
    · constructor
      · intro h
        obtain ⟨e, v, x, hround⟩ := exists_round hstopped h
        have hless := hround.advances.pending_lt
        rw [runFrom_round hround, ih (by omega)] at h
        obtain ⟨es, hrounds, hend⟩ := h
        exact ⟨e :: es, .more hround hrounds, hend⟩
      · rintro ⟨es, hrounds, hend⟩
        cases es with
        | nil =>
          cases hrounds
          exact absurd hend hstopped
        | cons e es =>
          obtain ⟨v, x, hround, hrounds⟩ := Rounds.cons_iff.1 hrounds
          have hless := hround.advances.pending_lt
          rw [runFrom_round hround, ih (by omega)]
          exact ⟨es, hrounds, hend⟩

/-- A run does rounds until it stops. -/
theorem run_eq_ok : run c clock respond o u w = .ok (u', w') ↔
    ∃ es, Rounds c clock respond o (u, w) es (u', w') ∧ Stopped c o u' :=
  runFrom_eq_ok (Nat.lt_succ_of_le (pending_le c u))

/-! ## Runs that fail -/

theorem exists_wait (c : Course) (o : Options) (s : Step) (w : World σ) :
    ∃ w', wait c o s w = .ok w' := by
  unfold wait
  split_ifs
  · exact ⟨w, rfl⟩
  · obtain ⟨a, ha⟩ := Journey.exists_thinkTime c.journey s w.random
    rw [ha]
    exact ⟨_, rfl⟩

/-- A responder that remembers besides what it was asked, in order. -/
def recording (respond : Responder σ) : Responder (σ × List RenderedRequest) := fun q m =>
  let (answer, memory) := respond q m.1
  (answer, (memory, m.2 ++ [q]))

/-- A world in which the responder remembers besides what it was asked. -/
def World.recorded (w : World σ) (asked : List RenderedRequest) :
    World (σ × List RenderedRequest) :=
  ⟨w.random, (w.memory, asked), w.waits, w.moments⟩

theorem wait_recorded {s : Step} (h : wait c o s w = .ok w') (asked : List RenderedRequest) :
    wait c o s (w.recorded asked) = .ok (w'.recorded asked) := by
  unfold wait at h ⊢
  split_ifs at h ⊢
  · cases h
    rfl
  · obtain ⟨⟨x, random⟩, hthink, h⟩ := bind_eq_ok.1 h
    cases h
    exact bind_eq_ok.2 ⟨(x, random), hthink, rfl⟩

theorem Round.recorded {e : Exchange} (h : Round c clock respond o (u, w) e (u', w'))
    (asked : List RenderedRequest) :
    Round c clock (recording respond) o (u, w.recorded asked) e
      (u', w'.recorded (asked ++ [e.request])) := by
  cases h with
  | @exchange _ _ _ _ memory id s q r outcome hnext hlimit hdue hprepare hasked hrespond hs hwait =>
    have hrecorded : recording respond q (w.recorded asked).memory =
        (.ok r, (memory, asked ++ [q])) := by
      simp only [recording, World.recorded, hasked]
    exact .exchange hnext hlimit hdue hprepare hrecorded hrespond hs (wait_recorded hwait _)

/-- The requests of the rounds are what the responder is asked, each of them once. -/
theorem Rounds.recorded {es : List Exchange} (h : Rounds c clock respond o (u, w) es (u', w'))
    (asked : List RenderedRequest) :
    Rounds c clock (recording respond) o (u, w.recorded asked) es
      (u', w'.recorded (asked ++ es.map Exchange.request)) := by
  induction es generalizing u w asked with
  | nil =>
    cases h
    rw [List.map_nil, List.append_nil]
    exact .none
  | cons e es ih =>
    obtain ⟨v, x, hround, hrounds⟩ := cons_iff.1 h
    have hrest := ih hrounds (asked ++ [e.request])
    rw [List.append_assoc] at hrest
    exact .more (hround.recorded asked) hrest

/-! ## The limit on steps -/

/-- A limit that admits all steps admits every round. -/
theorem Rounds.limit {es : List Exchange} {m : Int} (hm : (c.journey.steps.length : Int) ≤ m)
    (hu : Room c u) (h : Rounds c clock respond o (u, w) es (u', w')) :
    Rounds c clock respond { o with maxSteps := m } (u, w) es (u', w') := by
  induction es generalizing u w with
  | nil =>
    cases h
    exact .none
  | cons e es ih =>
    obtain ⟨v, x, hround, hrounds⟩ := cons_iff.1 h
    have hless := hround.advances.pending_lt
    refine .more ?_ (ih (hround.advances.room hu) hrounds)
    unfold Room at hu
    cases hround with
    | exchange hnext _ hdue hprepare hasked hrespond hs hwait =>
      exact .exchange hnext (show _ < m by omega) hdue hprepare hasked hrespond hs hwait

/-- A user who has stopped under a limit that admits all steps has stopped under any limit. -/
theorem Stopped.limit {m : Int} (ho : (c.journey.steps.length : Int) ≤ o.maxSteps)
    (hu : Room c u) (hdeclared : ∀ id, u.state.nextStep = some id → c.journey.declares id = true)
    (h : Stopped c o u) : Stopped c { o with maxSteps := m } u := by
  intro id hid
  right
  rcases h id hid with hmax | hdone
  · unfold Room at hu
    have hnone : pending c u = 0 := by omega
    have hexecuted : id ∈ u.state.executed := by
      rw [pending, List.length_eq_zero_iff, List.filter_eq_nil_iff] at hnone
      have hmem : id ∈ c.journey.stepIds := List.contains_iff_mem.1 (hdeclared id hid)
      simpa using hnone id hmem
    rw [← Bool.not_eq_true]
    exact fun hdue => not_mem_of_shouldExecute hdue hexecuted
  · exact hdone

/-! ## The account of a run -/

/-- What the exchanges of a run say about it. -/
structure Accounts (c : Course) (clock : Clock) (respond : Responder σ) (o : Options)
    (u : VirtualUser) (w : World σ) (u' : VirtualUser) (w' : World σ) (es : List Exchange) :
    Prop where
  rounds : Rounds c clock respond o (u, w) es (u', w')
  /-- The requests of the exchanges are what the responder is asked, once each and in order. -/
  asked : run c clock (recording respond) o u (w.recorded []) =
    .ok (u', w'.recorded (es.map Exchange.request))
  path : es.map (·.request.step) = u'.summary.path
  bounded : (es.length : Int) ≤ min o.maxSteps c.journey.steps.length
  nodup : u'.summary.path.Nodup
  steps : u'.summary.steps = u'.summary.path.length
  completed : u'.summary.completed = true ↔
    ∃ e, es.getLast? = some e ∧ e.outcome.transition.nextStep = none
  /-- Any limit that admits all steps gives the same run. -/
  limit : (c.journey.steps.length : Int) ≤ o.maxSteps →
    ∀ m : Int, c.journey.steps.length ≤ m →
      run c clock (recording respond) { o with maxSteps := m } u (w.recorded []) =
        .ok (u', w'.recorded (es.map Exchange.request))

theorem completed_iff {es : List Exchange} (hu : u.state.executed = [])
    (h : Rounds c clock respond o (u, w) es (u', w')) : u'.summary.completed = true ↔
      ∃ e, es.getLast? = some e ∧ e.outcome.transition.nextStep = none := by
  have hexecuted := h.executed
  rw [hu, List.nil_append] at hexecuted
  have hfinished : u'.summary.completed = true ↔ es ≠ [] ∧ u'.state.nextStep = none := by
    simp [summary, isFinished, hexecuted]
  rw [hfinished]
  constructor
  · rintro ⟨hne, hnone⟩
    have hlast := List.getLast?_eq_some_getLast hne
    exact ⟨_, hlast, (h.nextStep hlast).symm.trans hnone⟩
  · rintro ⟨e, hlast, hnone⟩
    refine ⟨?_, (h.nextStep hlast).trans hnone⟩
    rintro rfl
    cases hlast

/-- A run of a new user on a journey without dangling targets that comes to an end asks once for
    each step that it executes, in the order of the path. There are no more requests than the
    limit and the declared steps allow, the path holds no step twice, the user counts as completed
    just if the last transition had no next step, and a limit that admits all declared steps makes
    no difference. -/
theorem run_accounts {id : String} {context : Option UserContext} {environment : Entries}
    (hj : c.journey.WellFormed) (hclosed : c.journey.Closed) (hmax : 0 ≤ o.maxSteps)
    (hrun : run c clock respond o (start c.journey id context environment) w = .ok (u', w')) :
    ∃ es, Accounts c clock respond o (start c.journey id context environment) w u' w' es := by
  obtain ⟨es, hrounds, hstopped⟩ := run_eq_ok.1 hrun
  have hroom : Room c (start c.journey id context environment) := by
    rw [Room, start, newState, List.length_nil, Nat.zero_add]
    exact pending_le c _
  have hexecuted : u'.state.executed = es.map (·.request.step) := hrounds.executed
  have hlength : u'.state.executed.length = es.length := by
    rw [hexecuted, List.length_map]
  have hprogress := Progress.run hj hclosed hrounds.gatedRun
  have hrecorded := hrounds.recorded []
  rw [List.nil_append] at hrecorded
  refine ⟨es, hrounds, run_eq_ok.2 ⟨es, hrecorded, hstopped⟩, hexecuted.symm, ?_,
    hrounds.nodup List.nodup_nil, rfl, completed_iff rfl hrounds, ?_⟩
  · have hlimit := hrounds.executed_le hmax
    have hleft := hrounds.room hroom
    unfold Room at hleft
    omega
  · intro ho m hm
    refine run_eq_ok.2 ⟨es, hrecorded.limit hm hroom, ?_⟩
    exact hstopped.limit ho (hrounds.room hroom) hprogress.next_declared

/-! ## A run that would go back -/

def retryCourse : Course :=
  .ofJourney retryJourney none

def retryUser : VirtualUser :=
  start retryJourney "vu-1" none []

/-- All steps succeed but the second one; the responder counts its answers. -/
def failingCheck : Responder Nat := fun q n =>
  (.ok (plainResponse (if q.step = "check" then 500 else 200)), n + 1)

def unhurried : Options :=
  ⟨100, Binary64.zero false⟩

def firstWorld : World Nat :=
  ⟨⟨#[], 0⟩, 0, [], 0⟩

theorem run_retry : ∃ u' w',
    run retryCourse (fun _ => someFresh) failingCheck unhurried retryUser firstWorld = .ok (u', w') ∧
      u'.summary = ⟨"vu-1", none, ["create", "check"], 0, false, 2⟩ := by
  have hsummary : (run retryCourse (fun _ => someFresh) failingCheck unhurried retryUser
      firstWorld).toOption.map (·.1.summary) =
        some ⟨"vu-1", none, ["create", "check"], 0, false, 2⟩ := by
    decide +kernel
  obtain ⟨⟨u', w'⟩, hrun, hsummary⟩ := Option.map_eq_some_iff.1 hsummary
  refine ⟨u', w', ?_, hsummary⟩
  cases h : run retryCourse (fun _ => someFresh) failingCheck unhurried retryUser firstWorld with
  | error f => simp [h, Except.toOption] at hrun
  | ok p =>
    rw [h, Except.toOption, Option.some.injEq] at hrun
    rw [hrun]

/-- The user stops where the journey goes back to a step that was executed. -/
theorem run_retry_accounts :
    retryCourse.journey.WellFormed ∧ retryCourse.journey.Closed ∧ 0 ≤ unhurried.maxSteps ∧
      ∃ u' w', run retryCourse (fun _ => someFresh) failingCheck unhurried retryUser firstWorld =
          .ok (u', w') ∧
        u'.summary = ⟨"vu-1", none, ["create", "check"], 0, false, 2⟩ ∧
        ∃ es, Accounts retryCourse (fun _ => someFresh) failingCheck unhurried retryUser firstWorld
          u' w' es := by
  have hwellFormed : retryCourse.journey.WellFormed := wellFormed_of_read read_retryJourney
  have hclosed : retryCourse.journey.Closed := closed_iff_no_error.2 (by decide)
  have hmax : 0 ≤ unhurried.maxSteps := by decide
  obtain ⟨u', w', hrun, hsummary⟩ := run_retry
  exact ⟨hwellFormed, hclosed, hmax, u', w', hrun, hsummary,
    run_accounts hwellFormed hclosed hmax hrun⟩

end ApiJourney.Simulation
