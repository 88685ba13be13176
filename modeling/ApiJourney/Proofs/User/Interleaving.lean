-- SUMMARY: Users that take turns, and that each of them comes to the end that it has alone.
import ApiJourney.Proofs.User.BuiltIns

/-!
# Interleaving of users

Users on one journey take turns: with each turn a user prepares a request, has it answered, or
takes the answer and waits. They share the journey, the responder and the random numbers of the
think times. Where answers depend on requests alone and templates use no built-in variable, how
far a user has come depends on the number of its own turns alone, whatever the order.
-/

namespace ApiJourney.Simulation

variable {σ : Type} {c : Course} {fresh fresh' : Fresh} {clock : Clock} {respond : Responder σ}
  {o : Options} {w w' : World σ}

/-! ## Turns -/

/-- Where a user is within a round. -/
inductive Stage where
  | next (id : Option String)
  | asking (id : String) (q : RenderedRequest)
  | answered (id : String) (r : Response)
  | ended
  | failed (f : Failure)

def Stage.ofAttempt (x : Attempt α) (stage : α → Stage) : Stage :=
  match x with
  | .error f => .failed f
  | .ok a => stage a

/-- A user in the middle of its run. -/
structure Task where
  user : VirtualUser
  stage : Stage

namespace Task

def start (u : VirtualUser) : Task :=
  ⟨u, .next u.state.nextStep⟩

def isDone (t : Task) : Bool :=
  match t.stage with
  | .ended | .failed _ => true
  | _ => false

/-- The user at the end of its run, or why the run failed. -/
def result (t : Task) : Attempt VirtualUser :=
  match t.stage with
  | .failed f => .error f
  | _ => .ok t.user

/-- One turn of a user. -/
def move (c : Course) (fresh : Fresh) (respond : Responder σ) (o : Options) (t : Task)
    (w : World σ) : Task × World σ :=
  match t.stage with
  | .next none => (⟨t.user, .ended⟩, w)
  | .next (some id) =>
    if o.maxSteps ≤ t.user.state.executed.length || !c.journey.shouldExecute t.user.state id then
      (⟨t.user, .ended⟩, w)
    else (⟨t.user, .ofAttempt (t.user.prepare c fresh id) (.asking id)⟩, w)
  | .asking id q =>
    let (answer, memory) := respond q w.memory
    (⟨t.user, .ofAttempt answer (.answered id)⟩, { w with memory })
  | .answered id r =>
    let (outcome, u) := t.user.respond c id r
    let waited : Attempt (StepOutcome × World σ) := do
      let outcome ← outcome
      let s ← c.step id
      let w ← orFault (wait c o s w)
      .ok (outcome, w)
    match waited with
    | .error f => (⟨u, .failed f⟩, w)
    | .ok (outcome, w) => (⟨u, .next outcome.nextStep⟩, w)
  | .ended | .failed _ => (t, w)

/-- A user after one more turn, which is taken at a moment in a world. -/
def advance (c : Course) (fresh : Fresh) (respond : Responder σ) (o : Options) (w : World σ)
    (t : Task) : Task :=
  (t.move c fresh respond o w).1

end Task

/-- Whose turn it is, and the moment at which it is. -/
structure Turn where
  user : Nat
  fresh : Fresh

/-- Users that take turns. -/
def interleave (c : Course) (respond : Responder σ) (o : Options) :
    List Turn → List Task → World σ → List Task × World σ
  | [], ts, w => (ts, w)
  | turn :: turns, ts, w =>
    match ts[turn.user]? with
    | none => interleave c respond o turns ts w
    | some t =>
      let (t, w) := t.move c turn.fresh respond o w
      interleave c respond o turns (ts.set turn.user t) w

/-- What a responder answers depends on the request alone. -/
def AnswersByRequest (respond : Responder σ) : Prop :=
  ∀ q m m', (respond q m).1 = (respond q m').1

/-! ## Moves -/

/-- What a turn does to the user itself depends neither on the moment nor on what is shared. -/
theorem Task.move_fst (hc : c.WithoutBuiltIns) (hr : AnswersByRequest respond) (t : Task)
    (w w' : World σ) : (t.move c fresh respond o w).1 = (t.move c fresh' respond o w').1 := by
  obtain ⟨u, stage⟩ := t
  cases stage with
  | next id =>
    cases id with
    | none => rfl
    | some id =>
      unfold move
      dsimp only
      rw [u.prepare_fresh hc fresh fresh']
      split_ifs <;> rfl
  | asking id q =>
    unfold move
    dsimp only
    rw [hr q w.memory w'.memory]
  | answered id r =>
    unfold move
    dsimp only
    cases (u.respond c id r).1 with
    | error f => rfl
    | ok outcome =>
      cases c.step id with
      | error f => rfl
      | ok s =>
        -- The random numbers may differ, but from any of them a think time is drawn.
        obtain ⟨x, hx⟩ := exists_wait c o s w
        obtain ⟨x', hx'⟩ := exists_wait c o s w'
        simp only [hx, hx', orFault, Except.mapError, bind, Except.bind]
  | ended => rfl
  | failed f => rfl

theorem Task.move_of_isDone {t : Task} (h : t.isDone = true) :
    t.move c fresh respond o w = (t, w) := by
  obtain ⟨u, stage⟩ := t
  cases stage with
  | ended | failed f => rfl
  | next id | asking id q | answered id r => cases h

/-! ## How far a user has come -/

/-- How far a user has come depends on the number of its own turns alone. -/
theorem getElem?_interleave (hc : c.WithoutBuiltIns) (hr : AnswersByRequest respond)
    (fresh : Fresh) (w : World σ) (turns : List Turn) (ts : List Task) (v : World σ) (i : Nat) :
    (interleave c respond o turns ts v).1[i]? =
      ts[i]?.map (Task.advance c fresh respond o w)^[turns.countP (·.user = i)] := by
  induction turns generalizing ts v with
  | nil => exact Option.map_id'.symm
  | cons turn turns ih =>
    cases ht : ts[turn.user]? with
    | none =>
      rw [interleave, ht]
      dsimp only
      rw [ih, List.countP_cons]
      split_ifs with hi
      · rw [decide_eq_true_eq] at hi
        rw [← hi, ht]
        rfl
      · rfl
    | some t =>
      rw [interleave, ht]
      dsimp only
      have hlt : turn.user < ts.length := (List.getElem?_eq_some_iff.1 ht).1
      rw [ih, List.countP_cons]
      split_ifs with hi
      · rw [decide_eq_true_eq] at hi
        -- A user's own turn is its move alone: the world it finds does not matter.
        rw [← hi, List.getElem?_set_self hlt, ht, Option.map_some, Option.map_some,
          Function.iterate_succ_apply, Task.advance, t.move_fst hc hr v w]
      · rw [decide_eq_true_eq] at hi
        rw [List.getElem?_set_ne hi, Nat.add_zero]

namespace Task

variable {t : Task}

/-- A user that is done stays as it is. -/
theorem advance_iterate (h : t.isDone = true) (n : Nat) :
    (advance c fresh respond o w)^[n] t = t := by
  apply Function.iterate_fixed
  rw [advance, move_of_isDone h]

/-- A user that is done after some turns is there after more turns too. -/
theorem advance_of_le {m n : Nat} (hle : m ≤ n)
    (h : ((advance c fresh respond o w)^[m] t).isDone = true) :
    (advance c fresh respond o w)^[n] t = (advance c fresh respond o w)^[m] t := by
  obtain ⟨k, rfl⟩ := Nat.exists_eq_add_of_le' hle
  rw [Function.iterate_add_apply, advance_iterate h]

/-- However many turns it takes, a user that is done is at the same end. -/
theorem advance_unique {m n : Nat} (hm : ((advance c fresh respond o w)^[m] t).isDone = true)
    (hn : ((advance c fresh respond o w)^[n] t).isDone = true) :
    (advance c fresh respond o w)^[m] t = (advance c fresh respond o w)^[n] t := by
  rcases Nat.le_total m n with hle | hle
  · exact (advance_of_le hle hm).symm
  · exact advance_of_le hle hn

end Task

/-! ## Rounds in turns -/

variable {u u' : VirtualUser} {id : String} {q : RenderedRequest} {r : Response}

namespace Task

theorem advance_stopped (h : Stopped c o u) :
    advance c fresh respond o w (start u) = ⟨u, .ended⟩ := by
  unfold advance move start
  cases hnext : u.state.nextStep with
  | none => rfl
  | some id =>
    dsimp only
    rw [if_pos ((stopped_iff hnext).1 h)]

theorem advance_due (hnext : u.state.nextStep = some id) (h : ¬ Stopped c o u) :
    advance c fresh respond o w (start u) =
      ⟨u, .ofAttempt (u.prepare c fresh id) (.asking id)⟩ := by
  unfold advance move start
  rw [hnext]
  dsimp only
  rw [if_neg (mt (stopped_iff hnext).2 h)]

theorem advance_asking (hr : AnswersByRequest respond) (m : σ) :
    advance c fresh respond o w ⟨u, .asking id q⟩ =
      ⟨u, .ofAttempt (respond q m).1 (.answered id)⟩ := by
  rw [advance, move]
  dsimp only
  rw [hr q w.memory m]

theorem advance_failed {f : Failure} (h : u.respond c id r = (.error f, u')) :
    advance c fresh respond o w ⟨u, .answered id r⟩ = ⟨u', .failed f⟩ := by
  rw [advance, move]
  dsimp only
  rw [h]
  rfl

theorem advance_processed {s : Step} {outcome : StepOutcome} (hs : c.step id = .ok s)
    (h : u.respond c id r = (.ok outcome, u')) :
    advance c fresh respond o w ⟨u, .answered id r⟩ = start u' := by
  obtain ⟨-, hnextStep, -⟩ := process_outcome (respond_eq_ok hs h)
  obtain ⟨w', hw'⟩ := exists_wait c o s w
  rw [advance, move, start, hnextStep]
  simp only [h, hs, hw', orFault, Except.mapError, bind, Except.bind]

end Task

/-- A user comes to its end within a number of turns, and that end is the result of a run. -/
structure EndsWithin (c : Course) (fresh : Fresh) (respond : Responder σ) (o : Options)
    (w : World σ) (n : Nat) (t : Task) (ran : Attempt (VirtualUser × World σ)) : Prop where
  done : ((Task.advance c fresh respond o w)^[n] t).isDone = true
  result : ran.map Prod.fst = ((Task.advance c fresh respond o w)^[n] t).result

namespace EndsWithin

variable {n : Nat} {t t' : Task} {ran : Attempt (VirtualUser × World σ)}

theorem of_isDone (hdone : t.isDone = true) (hresult : ran.map Prod.fst = t.result) :
    EndsWithin c fresh respond o w n t ran := by
  constructor
  · rw [Task.advance_iterate hdone]
    exact hdone
  · rw [Task.advance_iterate hdone]
    exact hresult

theorem ended (v : World σ) : EndsWithin c fresh respond o w n ⟨u, .ended⟩ (.ok (u, v)) :=
  .of_isDone rfl rfl

theorem failed (f : Failure) : EndsWithin c fresh respond o w n ⟨u, .failed f⟩ (.error f) :=
  .of_isDone rfl rfl

theorem turn (hmove : Task.advance c fresh respond o w t = t')
    (h : EndsWithin c fresh respond o w n t' ran) :
    EndsWithin c fresh respond o w (n + 1) t ran := by
  subst hmove
  exact ⟨h.done, h.result⟩

end EndsWithin

/-- A user is three turns further from its end than it is behind its next round. -/
theorem endsWithin_of_round (hc : c.WithoutBuiltIns) (hr : AnswersByRequest respond) {n fuel : Nat}
    {v : World σ} (h : ∀ {e u' v'}, Round c clock respond o (u, v) e (u', v') →
      EndsWithin c fresh respond o w n (.start u')
        (runFrom c clock respond o fuel u'.state.nextStep u' v')) :
    EndsWithin c fresh respond o w (n + 3) (.start u)
      (runFrom c clock respond o (fuel + 1) u.state.nextStep u v) := by
  by_cases hstopped : Stopped c o u
  · rw [runFrom_stopped hstopped]
    exact .turn (Task.advance_stopped hstopped) (.ended v)
  · obtain ⟨id, hnext, hlimit, hdue⟩ := due_of_not_stopped hstopped
    rw [hnext, runFrom, if_neg (mt (stopped_iff hnext).2 hstopped)]
    -- One turn after the other, each of which may fail; behind the third one the round is done.
    refine .turn (Task.advance_due hnext hstopped) ?_
    rw [u.prepare_fresh hc fresh (clock v.moments)]
    cases hprepare : u.prepare c (clock v.moments) id with
    | error f => exact .failed f
    | ok q =>
      refine .turn (Task.advance_asking hr v.memory) ?_
      cases hasked : respond q v.memory with
      | mk answer memory =>
        cases answer with
        | error f =>
          simp only [hasked, bind, Except.bind]
          exact .failed f
        | ok r =>
          obtain ⟨s, hs, -⟩ := bind_eq_ok.1 hprepare
          cases hrespond : u.respond c id r with
          | mk outcome u' =>
            cases outcome with
            | error f =>
              refine .turn (Task.advance_failed hrespond) ?_
              simp only [hasked, hrespond, bind, Except.bind]
              exact .failed f
            | ok outcome =>
              refine .turn (Task.advance_processed hs hrespond) ?_
              obtain ⟨v', hwait⟩ := exists_wait c o s (v.answered memory)
              obtain ⟨-, hnextStep, -⟩ := process_outcome (respond_eq_ok hs hrespond)
              have hends := h (.exchange hnext hlimit hdue hprepare hasked hrespond hs hwait)
              simp only [hasked, hrespond, hs, hwait, orFault, Except.mapError, bind, Except.bind]
              rw [← hnextStep]
              exact hends

/-- A user comes to its end within three turns for each step that is pending and three more, and
    its run has the same result. -/
theorem endsWithin_of_pending (hc : c.WithoutBuiltIns) (hr : AnswersByRequest respond)
    (fresh : Fresh) (clock : Clock) {k : Nat} (hk : pending c u ≤ k) (v : World σ) :
    EndsWithin c fresh respond o w (3 * (k + 1)) (.start u)
      (runFrom c clock respond o (k + 1) u.state.nextStep u v) := by
  induction k generalizing u v with
  | zero =>
    refine endsWithin_of_round hc hr fun hround => ?_
    have hless := hround.advances.pending_lt
    omega
  | succ k ih =>
    refine endsWithin_of_round hc hr fun hround => ih ?_ _
    have hless := hround.advances.pending_lt
    omega

/-! ## Users among others -/

/-- A user alone, with a turn at each of the moments. -/
def alone (c : Course) (respond : Responder σ) (o : Options) (u : VirtualUser)
    (moments : List Fresh) (w : World σ) : List Task × World σ :=
  interleave c respond o (moments.map (Turn.mk 0)) [.start u] w

/-- What a user that has had a number of turns has come to is what it comes to alone. -/
structure AsAlone (c : Course) (respond : Responder σ) (o : Options) (u : VirtualUser) (n : Nat)
    (t : Task) : Prop where
  /-- With as many turns the user is at the same point, whatever the moments and the world. -/
  point : ∀ moments w, moments.length = n → (alone c respond o u moments w).1 = [t]
  /-- At its end it has the state and the summary that it has at any end alone. -/
  final : t.isDone = true → ∀ moments w t', (alone c respond o u moments w).1 = [t'] →
    t'.isDone = true → t'.user.state = t.user.state ∧ t'.user.summary = t.user.summary
  /-- A run of the user has the same result. -/
  run : t.isDone = true → ∀ clock w, (run c clock respond o u w).map Prod.fst = t.result
  /-- The end is reached with three turns for each step and three more. -/
  ends : 3 * (c.journey.steps.length + 1) ≤ n → t.isDone = true

theorem alone_eq (hc : c.WithoutBuiltIns) (hr : AnswersByRequest respond) (fresh : Fresh)
    (w : World σ) (u : VirtualUser) (moments : List Fresh) (v : World σ) :
    (alone c respond o u moments v).1 =
      [(Task.advance c fresh respond o w)^[moments.length] (.start u)] := by
  have hown : (moments.map (Turn.mk 0)).countP (·.user = 0) = moments.length := by
    rw [List.countP_map, List.countP_eq_length]
    exact fun _ _ => rfl
  apply List.ext_getElem?
  intro i
  rw [alone, getElem?_interleave hc hr fresh w]
  cases i with
  | zero => rw [hown]; rfl
  | succ i => rfl

theorem asAlone_advance (hc : c.WithoutBuiltIns) (hr : AnswersByRequest respond) (fresh : Fresh)
    (w : World σ) (u : VirtualUser) (n : Nat) :
    AsAlone c respond o u n ((Task.advance c fresh respond o w)^[n] (.start u)) where
  point := by
    rintro moments v rfl
    exact alone_eq hc hr fresh w u moments v
  final := by
    intro hdone moments v t' ht' hdone'
    rw [alone_eq hc hr fresh w u moments v, List.cons.injEq] at ht'
    obtain ⟨rfl, -⟩ := ht'
    rw [Task.advance_unique hdone' hdone]
    exact ⟨rfl, rfl⟩
  run := by
    intro hdone clock v
    have hends := endsWithin_of_pending (o := o) (w := w) hc hr fresh clock (pending_le c u) v
    rw [Simulation.run, hends.result, Task.advance_unique hends.done hdone]
  ends := by
    intro hn
    have hends := endsWithin_of_pending (o := o) (w := w) hc hr fresh (fun _ => fresh)
      (pending_le c u) w
    rw [Task.advance_of_le hn hends.done]
    exact hends.done

/-- Users that share a journey, a responder and the random numbers of their think times take turns
    in any order, each turn at a moment of its own. What a user comes to depends on the number of
    its turns alone, and its end is that of the user alone. -/
theorem interleave_asAlone (hc : c.WithoutBuiltIns) (hr : AnswersByRequest respond)
    {us : List VirtualUser} {i : Nat} (hu : us[i]? = some u) (turns : List Turn) (w : World σ) :
    ∃ t, (interleave c respond o turns (us.map .start) w).1[i]? = some t ∧
      AsAlone c respond o u (turns.countP (·.user = i)) t := by
  refine ⟨_, ?_, asAlone_advance hc hr VirtualUser.someFresh w u _⟩
  rw [getElem?_interleave hc hr VirtualUser.someFresh w, List.getElem?_map, hu]
  rfl

open VirtualUser in
/-- A user of the journey that sends the status of its first step. -/
def testUser : VirtualUser :=
  start (statusJourney "code") "vu-2" none [(.text "stage", .text "test")]

/-- A request that holds the status is refused; the responder counts what it is asked. -/
def refusing : Responder Nat := fun q n =>
  (.ok (Journey.plainResponse (if q.body = some "200" then 500 else 200)), n + 1)

/-- The second user is ahead, falls back, and is at its end first. -/
def someTurns : List Turn :=
  [1, 1, 0, 0, 0, 0, 1, 1, 0, 1, 1, 1, 1, 1, 0].map fun i => ⟨i, VirtualUser.someFresh⟩

theorem testUser_asAlone :
    (VirtualUser.statusCourse "code").WithoutBuiltIns ∧ AnswersByRequest refusing ∧
      [VirtualUser.statusUser "code", testUser][1]? = some testUser ∧
      ∃ t, (interleave (VirtualUser.statusCourse "code") refusing unhurried someTurns
          ([VirtualUser.statusUser "code", testUser].map .start) firstWorld).1[1]? = some t ∧
        (t.isDone, t.user.summary) = (true, ⟨"vu-2", none, ["create", "check"], 0, true, 2⟩) ∧
        AsAlone (VirtualUser.statusCourse "code") refusing unhurried testUser 9 t := by
  have hc : (VirtualUser.statusCourse "code").WithoutBuiltIns := by decide +kernel
  have hr : AnswersByRequest refusing := fun _ _ _ => rfl
  have hu : [VirtualUser.statusUser "code", testUser][1]? = some testUser := rfl
  obtain ⟨t, ht, halone⟩ := interleave_asAlone (o := unhurried) hc hr hu someTurns firstWorld
  have hend : (interleave (VirtualUser.statusCourse "code") refusing unhurried someTurns
      ([VirtualUser.statusUser "code", testUser].map .start) firstWorld).1[1]?.map
        (fun t => (t.isDone, t.user.summary)) =
      some (true, ⟨"vu-2", none, ["create", "check"], 0, true, 2⟩) := by
    decide +kernel
  rw [ht, Option.map_some, Option.some.injEq] at hend
  exact ⟨hc, hr, hu, t, ht, hend, halone⟩

/-! ## Users one after the other -/

theorem length_interleave (turns : List Turn) (ts : List Task) (w : World σ) :
    (interleave c respond o turns ts w).1.length = ts.length := by
  induction turns generalizing ts w with
  | nil => rfl
  | cons turn turns ih =>
    rw [interleave]
    split
    · exact ih ts w
    · exact (ih _ _).trans List.length_set

/-- Users whose runs have the results of tasks, run one after the other. -/
theorem runAll_eq_mapM {us : List VirtualUser} {ts : List Task}
    (h : List.Forall₂ (fun u t => ∀ w, (run c clock respond o u w).map Prod.fst = t.result) us ts)
    (w : World σ) : (runAll c clock respond o us w).map Prod.fst =
      ts.mapM fun t => t.result.map VirtualUser.summary := by
  induction h generalizing w with
  | nil => rfl
  | @cons u t us ts hrun _ ih =>
    have hresult := hrun w
    rw [runAll, List.mapM_cons, ← hresult]
    cases run c clock respond o u w with
    | error f => rfl
    | ok a =>
      have hrest := ih a.2
      simp only [bind, Except.bind, Except.map] at hrest ⊢
      rw [← hrest]
      cases runAll c clock respond o us a.2 <;> rfl

/-- When users that take turns are all done, they have the summaries that they have when they are
    run one after the other. -/
theorem runAll_eq_interleave (hc : c.WithoutBuiltIns) (hr : AnswersByRequest respond)
    {us : List VirtualUser} {turns : List Turn} {w : World σ}
    (hdone : ∀ t ∈ (interleave c respond o turns (us.map .start) w).1, t.isDone = true)
    (clock : Clock) (v : World σ) : (runAll c clock respond o us v).map Prod.fst =
      (interleave c respond o turns (us.map .start) w).1.mapM fun t =>
        t.result.map VirtualUser.summary := by
  refine runAll_eq_mapM (List.forall₂_iff_get.2 ⟨?_, fun i hi hi' v => ?_⟩) v
  · rw [length_interleave, List.length_map]
  · have hpoint : (interleave c respond o turns (us.map .start) w).1[i] =
        (Task.advance c (clock 0) respond o w)^[turns.countP (·.user = i)] (.start us[i]) := by
      rw [List.getElem_eq_iff, getElem?_interleave hc hr (clock 0) w, List.getElem?_map,
        List.getElem?_eq_getElem hi]
      rfl
    have hend := hdone _ (List.getElem_mem hi')
    rw [List.get_eq_getElem, List.get_eq_getElem]
    rw [hpoint] at hend ⊢
    exact (asAlone_advance hc hr (clock 0) w us[i] _).run hend clock v

end ApiJourney.Simulation
