-- SUMMARY: Which transition a response leads to, and where it cannot be put into words.
import ApiJourney.Proofs.Flow.Commit

/-!
# Resolution of transitions

The first branch whose condition is met decides. If none is, it is what the step names for the
class of the status, and if it names nothing the declared order. The condition of a branch that
is taken is put into words besides. So a transition that is decided still ends with a fault if
the operand of that condition has no written form.
-/

namespace ApiJourney

/-- Some integers have too many digits to be written. -/
theorem Value.exists_intText?_eq_none : ∃ n : Int, intText? n = none := by
  refine ⟨(Nat.pow 10 Numeral.maxDigits : Nat), ?_⟩
  rw [intText?, Int.natAbs_natCast, if_pos (Nat.le_refl _)]

/-- There is one reason only why a condition cannot be put into words. -/
theorem Condition.describe_eq_error {c : Condition} {f : Fault} (h : c.describe = .error f) :
    f = .badValue := by
  unfold describe at h
  split at h <;> split at h <;> cases h <;> rfl

namespace Journey

open Condition

variable {j : Journey} {s : Step} {r : Response} {t : Transition}

/-! ## Rules -/

/-- None of the conditions is met. -/
def NoneMet (r : Response) (bs : List Branch) : Prop :=
  ∀ b ∈ bs, b.condition.isMet r = .ok false

/-- The conditions have verdicts, up to the first one that is met. -/
def Judged (r : Response) : List Branch → Prop
  | [] => True
  | b :: rest => b.condition.isMet r = .ok true ∨ b.condition.isMet r = .ok false ∧ Judged r rest

/-- The step names nothing for the class of the status; an empty text names nothing. -/
def Undirected (s : Step) (r : Response) : Prop :=
  ∀ target, (if 200 ≤ r.status ∧ r.status ≤ 299 then s.onSuccess else s.onFailure) = some target →
    target = ""

/-- The rules in the order in which they count. -/
inductive Resolves (j : Journey) (s : Step) (r : Response) : Transition → Prop where
  /-- The first branch in declared order whose condition is met. -/
  | branch {before after : List Branch} {b : Branch} :
      s.branches = before ++ b :: after → NoneMet r before → b.condition.isMet r = .ok true →
      Resolves j s r ⟨true, some b.goto, some b.condition, .branch⟩
  | onSuccess {target : String} :
      NoneMet r s.branches → 200 ≤ r.status ∧ r.status ≤ 299 →
      s.onSuccess = some target → target ≠ "" →
      Resolves j s r ⟨true, some target, none, .onSuccess⟩
  | onFailure {target : String} :
      NoneMet r s.branches → ¬ (200 ≤ r.status ∧ r.status ≤ 299) →
      s.onFailure = some target → target ≠ "" →
      Resolves j s r ⟨true, some target, none, .onFailure⟩
  | sequential {before after : List Step} {next : Step} :
      NoneMet r s.branches → Undirected s r → j.steps = before ++ s :: next :: after →
      Resolves j s r ⟨false, some next.id, none, .sequential⟩
  | end_ {before : List Step} :
      NoneMet r s.branches → Undirected s r → j.steps = before ++ [s] →
      Resolves j s r ⟨false, none, none, .end_⟩

/-! ## Branches -/

theorem takenBranch?_of_noneMet {bs : List Branch} (h : NoneMet r bs) :
    takenBranch? r bs = .ok none := by
  induction bs with
  | nil => rfl
  | cons b bs ih =>
    obtain ⟨hb, hbs⟩ := List.forall_mem_cons.1 h
    rw [takenBranch?, hb]
    exact ih hbs

theorem takenBranch?_of_first {before after : List Branch} {b : Branch} (h : NoneMet r before)
    (hb : b.condition.isMet r = .ok true) :
    takenBranch? r (before ++ b :: after) = .ok (some b) := by
  induction before with
  | nil =>
    rw [List.nil_append, takenBranch?, hb]
    rfl
  | cons b' before ih =>
    obtain ⟨hb', hbefore⟩ := List.forall_mem_cons.1 h
    rw [List.cons_append, takenBranch?, hb']
    exact ih hbefore

theorem Judged.noneMet_or_first {bs : List Branch} (h : Judged r bs) :
    NoneMet r bs ∨ ∃ before b after, bs = before ++ b :: after ∧ NoneMet r before ∧
      b.condition.isMet r = .ok true := by
  induction bs with
  | nil => exact .inl nofun
  | cons b bs ih =>
    rcases h with hb | ⟨hb, hbs⟩
    · exact .inr ⟨[], b, bs, rfl, nofun, hb⟩
    · rcases ih hbs with hnone | ⟨before, b', after, rfl, hbefore, hb'⟩
      · exact .inl (List.forall_mem_cons.2 ⟨hb, hnone⟩)
      · exact .inr ⟨b :: before, b', after, rfl, List.forall_mem_cons.2 ⟨hb, hbefore⟩, hb'⟩

/-! ## Without a branch -/

theorem isSuccess_iff : r.isSuccess = true ↔ 200 ≤ r.status ∧ r.status ≤ 299 := by
  simp only [Response.isSuccess, Bool.and_eq_true, decide_eq_true_eq]
  omega

theorem given?_eq_some {text : Option String} {target : String} :
    Text.given? text = some target ↔ text = some target ∧ target ≠ "" := by
  simp [Text.given?, Option.filter_eq_some_iff]

theorem given?_eq_none {text : Option String} :
    Text.given? text = none ↔ ∀ target, text = some target → target = "" := by
  simp [Text.given?, Option.filter_eq_none_iff]

/-- The step that is declared behind a step. -/
theorem WellFormed.following?_of_steps (hj : j.WellFormed) {before after : List Step}
    (h : j.steps = before ++ s :: after) : j.following? s.id = (after.map Step.id).head? := by
  apply hj.following?_eq
  rw [stepIds, h, List.map_append, List.map_cons]

theorem plainTransition_of_given {target : String}
    (h : Text.given? (if r.isSuccess then s.onSuccess else s.onFailure) = some target) :
    j.plainTransition s r
      = ⟨true, some target, none, if r.isSuccess then .onSuccess else .onFailure⟩ := by
  simp only [plainTransition, h]

theorem plainTransition_of_next {next : String}
    (h : Text.given? (if r.isSuccess then s.onSuccess else s.onFailure) = none)
    (hnext : j.following? s.id = some next) :
    j.plainTransition s r = ⟨false, some next, none, .sequential⟩ := by
  simp only [plainTransition, h, hnext]

theorem plainTransition_of_end
    (h : Text.given? (if r.isSuccess then s.onSuccess else s.onFailure) = none)
    (hend : j.following? s.id = none) : j.plainTransition s r = ⟨false, none, none, .end_⟩ := by
  simp only [plainTransition, h, hend]

theorem undirected_iff :
    Undirected s r ↔ Text.given? (if r.isSuccess then s.onSuccess else s.onFailure) = none := by
  simp only [Undirected, given?_eq_none, isSuccess_iff]

/-- The transition without a branch is one that the rules give. -/
theorem resolves_plain (hj : j.WellFormed) (hs : s ∈ j.steps) (hnone : NoneMet r s.branches) :
    Resolves j s r (j.plainTransition s r) := by
  cases hgiven : Text.given? (if r.isSuccess then s.onSuccess else s.onFailure) with
  | some target =>
    obtain ⟨hnamed, hne⟩ := given?_eq_some.1 hgiven
    rw [plainTransition_of_given hgiven]
    by_cases hr : r.isSuccess = true
    · rw [if_pos hr] at hnamed ⊢
      exact .onSuccess hnone (isSuccess_iff.1 hr) hnamed hne
    · rw [if_neg hr] at hnamed ⊢
      exact .onFailure hnone (isSuccess_iff.not.1 hr) hnamed hne
  | none =>
    obtain ⟨before, after, hsteps⟩ := List.append_of_mem hs
    have hnext := hj.following?_of_steps hsteps
    cases after with
    | nil =>
      rw [plainTransition_of_end hgiven hnext]
      exact .end_ hnone (undirected_iff.2 hgiven) hsteps
    | cons next after =>
      rw [plainTransition_of_next hgiven hnext]
      exact .sequential hnone (undirected_iff.2 hgiven) hsteps

/-- The rules give the transition of the first branch that is taken, or else the one without a
    branch. -/
theorem Resolves.cases_taken (hj : j.WellFormed) (h : Resolves j s r t) :
    (∃ b, takenBranch? r s.branches = .ok (some b) ∧ t = branchTransition b) ∨
      takenBranch? r s.branches = .ok none ∧ t = j.plainTransition s r := by
  cases h with
  | branch hbs hbefore hb =>
    rw [hbs]
    exact .inl ⟨_, takenBranch?_of_first hbefore hb, rfl⟩
  | onSuccess hnone hstatus hnamed hne =>
    have hr := isSuccess_iff.2 hstatus
    refine .inr ⟨takenBranch?_of_noneMet hnone, ?_⟩
    rw [plainTransition_of_given (given?_eq_some.2 ⟨by rw [if_pos hr, hnamed], hne⟩), if_pos hr]
  | onFailure hnone hstatus hnamed hne =>
    have hr := isSuccess_iff.not.2 hstatus
    refine .inr ⟨takenBranch?_of_noneMet hnone, ?_⟩
    rw [plainTransition_of_given (given?_eq_some.2 ⟨by rw [if_neg hr, hnamed], hne⟩), if_neg hr]
  | sequential hnone hundirected hsteps =>
    refine .inr ⟨takenBranch?_of_noneMet hnone, ?_⟩
    rw [plainTransition_of_next (undirected_iff.1 hundirected) (hj.following?_of_steps hsteps)]
  | end_ hnone hundirected hsteps =>
    refine .inr ⟨takenBranch?_of_noneMet hnone, ?_⟩
    rw [plainTransition_of_end (undirected_iff.1 hundirected) (hj.following?_of_steps hsteps)]

/-- The rules never give two transitions. -/
theorem Resolves.unique (hj : j.WellFormed) (h : Resolves j s r t) {other : Transition}
    (hother : Resolves j s r other) : other = t := by
  rcases h.cases_taken hj with ⟨b, htaken, rfl⟩ | ⟨htaken, rfl⟩ <;>
    rcases hother.cases_taken hj with ⟨b', htaken', rfl⟩ | ⟨htaken', rfl⟩ <;>
      cases htaken.symm.trans htaken'
  · rfl
  · rfl

/-- Where the conditions have verdicts the rules give a transition. -/
theorem Judged.exists_resolves (hj : j.WellFormed) (hs : s ∈ j.steps)
    (h : Judged r s.branches) : ∃ t, Resolves j s r t := by
  rcases h.noneMet_or_first with hnone | ⟨before, b, after, hbs, hbefore, hb⟩
  · exact ⟨_, resolves_plain hj hs hnone⟩
  · exact ⟨_, .branch hbs hbefore hb⟩

/-! ## What the rules give -/

namespace Resolves

theorem matched_iff (h : Resolves j s r t) :
    t.matched = false ↔ t.source = .sequential ∨ t.source = .end_ := by
  cases h <;> simp

theorem nextStep_iff (h : Resolves j s r t) : t.nextStep = none ↔ t.source = .end_ := by
  cases h <;> simp

theorem mem_edges (hj : j.WellFormed) (h : Resolves j s r t) {id : String}
    (hnext : t.nextStep = some id) : id ∈ j.edges s := by
  rw [Journey.mem_edges]
  cases h with
  | branch hbs _ _ =>
    cases hnext
    refine .inl ?_
    simp [references, hbs]
  | onSuccess _ _ hnamed hne =>
    cases hnext
    refine .inl ?_
    simp [references, given?_eq_some.2 ⟨hnamed, hne⟩]
  | onFailure _ _ hnamed hne =>
    cases hnext
    refine .inl ?_
    simp [references, given?_eq_some.2 ⟨hnamed, hne⟩]
  | sequential _ _ hsteps =>
    cases hnext
    exact .inr (hj.following?_of_steps hsteps)
  | end_ => cases hnext

/-- The response leads to the transition that the rules give, unless the condition of the branch
    cannot be put into words. -/
theorem transition_eq (hj : j.WellFormed) (h : Resolves j s r t) :
    j.transition s r = .ok t ∨
      j.transition s r = .error .badValue ∧ ∃ c, t.condition = some c ∧ ¬ c.Written := by
  rcases h.cases_taken hj with ⟨b, htaken, rfl⟩ | ⟨htaken, rfl⟩
  · rw [transition, htaken]
    cases hwords : b.condition.describe with
    | ok words =>
      left
      simp only [bind, Except.bind, hwords]
    | error f =>
      right
      refine ⟨?_, _, rfl, fun hwritten => (describe_ensures hwritten).of_error hwords⟩
      rw [describe_eq_error hwords] at hwords
      simp only [bind, Except.bind, hwords]
  · left
    rw [transition, htaken]
    rfl

end Resolves

/-! ## Resolution -/

/-- Where its conditions have verdicts a step of an accepted journey has one transition by the
    rules. It is matched unless it is the declared order or the end, it follows an edge of the
    step unless it is the end, and the response leads to it. Only where the condition of the
    branch that is taken has no written form there is a fault instead. -/
theorem transition_resolves {v : Value} (hread : Journey.read v = .accepted j)
    (hs : s ∈ j.steps) (hjudged : Judged r s.branches) :
    ∃ t, (∀ other, Resolves j s r other ↔ other = t) ∧
      (t.matched = false ↔ t.source = .sequential ∨ t.source = .end_) ∧
      (∀ id, t.nextStep = some id → id ∈ j.edges s) ∧
      (t.nextStep = none ↔ t.source = .end_) ∧
      (j.transition s r = .ok t ∨
        j.transition s r = .error .badValue ∧ ∃ c, t.condition = some c ∧ ¬ c.Written) := by
  have hj := wellFormed_of_read hread
  obtain ⟨t, ht⟩ := hjudged.exists_resolves hj hs
  refine ⟨t, ?_, ht.matched_iff, ?_, ht.nextStep_iff, ht.transition_eq hj⟩
  · intro other
    constructor
    · exact ht.unique hj
    · rintro rfl
      exact ht
  · intro id hnext
    exact ht.mem_edges hj hnext

/-- A step with two branches: one asks for a header, the other one is met where that header is
    absent or differs from a number. -/
def comparingStep (n : Int) : Step :=
  { plainStep "create" none with
    branches := [
      ⟨⟨none, none, some "retry", [(.present, .bool true)]⟩, "check"⟩,
      ⟨⟨none, none, some "retry", [(.ne, .int n)]⟩, "report"⟩] }

def comparingJourney (n : Int) : Journey :=
  plainJourney [comparingStep n, plainStep "check" none, plainStep "report" none]

/-- The document of that journey. -/
def comparingDocument (n : Int) : Value :=
  .object [("id", .text "shop"), ("name", .text "Shop"), ("steps", .list [
    .object [
      ("id", .text "create"),
      ("request", .object [("method", .text "GET"), ("url", .text "/create")]),
      ("branches", .list [
        .object [
          ("condition", .object [("header", .text "retry"), ("exists", .bool true)]),
          ("goto", .text "check")],
        .object [
          ("condition", .object [("header", .text "retry"), ("ne", .int n)]),
          ("goto", .text "report")]])],
    .object [
      ("id", .text "check"),
      ("request", .object [("method", .text "GET"), ("url", .text "/check")])],
    .object [
      ("id", .text "report"),
      ("request", .object [("method", .text "GET"), ("url", .text "/report")])]])]

theorem read_comparingDocument (n : Int) :
    Journey.read (comparingDocument n) = .accepted (comparingJourney n) := by
  cbv

/-- The condition of the second branch. -/
def comparison (n : Int) : Condition :=
  ⟨none, none, some "retry", [(.ne, .int n)]⟩

/-- Without the header the second branch is taken. -/
theorem comparingStep_resolves (n : Int) :
    Resolves (comparingJourney n) (comparingStep n) (plainResponse 200)
      ⟨true, some "report", some (comparison n), .branch⟩ := by
  have hbranches : (comparingStep n).branches
      = [⟨⟨none, none, some "retry", [(.present, .bool true)]⟩, "check"⟩]
        ++ ⟨comparison n, "report"⟩ :: [] := rfl
  exact .branch hbranches (List.forall_mem_singleton.2 rfl) rfl

theorem comparingStep_judged (n : Int) : Judged (plainResponse 200) (comparingStep n).branches :=
  .inr ⟨rfl, .inl rfl⟩

theorem comparison_written {n : Int} (h : (Value.intText? n).isSome) : (comparison n).Written where
  status := nofun
  operand := by
    rintro _ _ ⟨rfl⟩
    exact h

/-- A response without the header leads from the first step to the last one, past the second. -/
theorem comparingStep_transition :
    Journey.read (comparingDocument 3) = .accepted (comparingJourney 3) ∧
      comparingStep 3 ∈ (comparingJourney 3).steps ∧
      Judged (plainResponse 200) (comparingStep 3).branches ∧
      (comparingJourney 3).transition (comparingStep 3) (plainResponse 200)
        = .ok ⟨true, some "report", some (comparison 3), .branch⟩ ∧
      "report" ∈ (comparingJourney 3).edges (comparingStep 3) := by
  have hmem : comparingStep 3 ∈ (comparingJourney 3).steps := List.mem_cons_self
  obtain ⟨t, hrules, -, hedge, -, htransition⟩ :=
    transition_resolves (read_comparingDocument 3) hmem (comparingStep_judged 3)
  obtain rfl := (hrules _).1 (comparingStep_resolves 3)
  refine ⟨read_comparingDocument 3, hmem, comparingStep_judged 3, htransition.resolve_right ?_,
    hedge "report" rfl⟩
  rintro ⟨-, c, ⟨rfl⟩, hunwritten⟩
  have hdigits : Value.intText? 3 = some (toString 3) :=
    Value.intText?_of_lt (k := 1) (by decide) (by decide)
  exact hunwritten (comparison_written (by rw [hdigits]; rfl))

/-- Where the number has too many digits there is a fault instead. -/
theorem comparingStep_badValue {n : Int} (h : Value.intText? n = none) :
    (comparingJourney n).transition (comparingStep n) (plainResponse 200) = .error .badValue := by
  have hwords : (comparison n).describe = .error .badValue := by
    simp only [describe, comparison, operatorText?, operator?, List.head?_cons, Value.written?, h]
    rfl
  have htaken : takenBranch? (plainResponse 200) (comparingStep n).branches
      = .ok (some ⟨comparison n, "report"⟩) := rfl
  rw [transition, htaken]
  simp only [bind, Except.bind, hwords]

/-- That the conditions have verdicts does not make a transition yet. -/
theorem transition_not_total : ¬ ∀ (v : Value) (j : Journey) (s : Step) (r : Response),
    Journey.read v = .accepted j → s ∈ j.steps → Judged r s.branches →
    ∃ t, j.transition s r = .ok t := by
  intro h
  obtain ⟨n, hn⟩ := Value.exists_intText?_eq_none
  obtain ⟨t, ht⟩ := h _ _ (comparingStep n) (plainResponse 200) (read_comparingDocument n)
    List.mem_cons_self (comparingStep_judged n)
  rw [comparingStep_badValue hn] at ht
  cases ht

end Journey

end ApiJourney
