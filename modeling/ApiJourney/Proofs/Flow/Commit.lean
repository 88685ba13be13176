-- SUMMARY: What processing a response leaves behind, also where it ends with a fault.
import ApiJourney.Proofs.Flow.Run
import ApiJourney.Proofs.Flow.Verdict

/-!
# What a processed response commits

A response that is processed commits variables, executed steps, the current and the next step
together. Extractions that end with a fault commit nothing. A transition that ends with a fault
comes too late for that: the extracted variables are bound already, and nothing else is
committed. That takes a branch whose condition has no verdict or cannot be put into words.
-/

namespace ApiJourney

/-- An integer of few digits has a written form. -/
theorem Value.intText?_of_lt {n : Int} {k : Nat} (hk : k ≤ Numeral.maxDigits)
    (hn : n.natAbs < 10 ^ k) : intText? n = some (toString n) := by
  have hpow : 10 ^ k ≤ 10 ^ Numeral.maxDigits := Nat.pow_le_pow_right (by decide) hk
  rw [intText?, Nat.pow_eq, if_neg (Nat.not_le.2 (hn.trans_le hpow))]

namespace Condition

/-- The operand, or the status asked for, has a written form. -/
structure Written (c : Condition) : Prop where
  status : ∀ n, c.status = some n → (Value.intText? n).isSome
  operand : ∀ o v, c.operator? = some (o, v) → v.written?.isSome

theorem describe_ensures {c : Condition} (h : c.Written) :
    Ensures c.describe (fun _ => True) fun _ => False := by
  unfold describe
  split
  · next n _ hstatus =>
    have hwritten := h.status n hstatus
    split
    · trivial
    · next hnone =>
      rw [hnone] at hwritten
      cases hwritten
  · unfold operatorText?
    cases hoperator : c.operator? with
    | none => trivial
    | some operator =>
      obtain ⟨o, v⟩ := operator
      have hwritten := h.operand o v hoperator
      dsimp only
      cases ht : v.written? with
      | none =>
        rw [ht] at hwritten
        cases hwritten
      | some t => trivial

end Condition

namespace Journey

open Condition Numeral

variable {r : Response}

/-- A branch is found to be taken or not, if all conditions have a verdict. -/
theorem takenBranch?_ensures {bs : List Branch}
    (h : ∀ b ∈ bs, ∀ f, ¬ b.condition.Breaks r f) :
    Ensures (takenBranch? r bs) (fun taken => ∀ b ∈ taken, b ∈ bs) fun _ => False := by
  induction bs with
  | nil => exact fun b hb => nomatch hb
  | cons b rest ih =>
    rw [List.forall_mem_cons] at h
    rw [takenBranch?]
    refine ((isMet_ensures b.condition r).imp (fun _ h => h) h.1).bind fun met _ => ?_
    split
    · rintro _ ⟨rfl⟩
      exact List.mem_cons_self
    · exact (ih h.2).imp (fun taken htaken b hb => List.mem_cons_of_mem _ (htaken b hb))
        fun _ h => h

/-- The conditions of a step have verdicts on a response, and can be put into words. -/
def Decides (s : Step) (r : Response) : Prop :=
  ∀ b ∈ s.branches, b.condition.Written ∧ ∀ f, ¬ b.condition.Breaks r f

theorem transition_ensures (j : Journey) {s : Step} (h : Decides s r) :
    Ensures (j.transition s r) (fun _ => True) fun _ => False := by
  refine (takenBranch?_ensures fun b hb => (h b hb).2).bind fun taken htaken => ?_
  split
  · next b => exact (describe_ensures (h b (htaken b rfl)).1).bind fun _ _ => trivial
  · trivial

/-- The state that a result goes with when all or nothing is committed: a fault leaves the
    state as it was, and an outcome is committed to all of it. -/
def committed (s : Step) (before : FlowState) : Except Fault StepOutcome → FlowState
  | .error _ => before
  | .ok o =>
    { bindings := Entries.update before.bindings o.bindings
      executed := before.executed ++ [s.id]
      currentStep := some s.id
      nextStep := o.nextStep }

def AllOrNothing (s : Step) (before : FlowState) (result : Except Fault StepOutcome × FlowState) :
    Prop :=
  result.2 = committed s before result.1

/-- Processing a response commits all or nothing, unless the transition ends with a fault: then
    the extracted variables are bound, and nothing else is committed. Where the conditions of
    the step decide it is all or nothing. -/
theorem process_allOrNothing_unless (j : Journey) (s : Step) (r : Response) (before : FlowState) :
    (AllOrNothing s before (j.process s r before) ∨
      ∃ extracted f, Extraction.runAll r s.extract = .ok extracted ∧
        j.transition s r = .error f ∧
        j.process s r before =
          (.error f, { before with
            bindings := Entries.update before.bindings extracted.bindings })) ∧
    (Decides s r → AllOrNothing s before (j.process s r before)) := by
  have houtcome : AllOrNothing s before (j.process s r before) ∨
      ∃ extracted f, Extraction.runAll r s.extract = .ok extracted ∧
        j.transition s r = .error f ∧
        j.process s r before =
          (.error f, { before with
            bindings := Entries.update before.bindings extracted.bindings }) := by
    unfold process
    -- Bindings are written behind the extractions, so only the transition can fail too late.
    cases hextract : Extraction.runAll r s.extract with
    | error f => exact .inl rfl
    | ok extracted =>
      cases htransition : j.transition s r with
      | error f => exact .inr ⟨extracted, f, rfl, rfl, rfl⟩
      | ok t => exact .inl rfl
  refine ⟨houtcome, fun hdecides => houtcome.resolve_right ?_⟩
  rintro ⟨_, f, -, htransition, -⟩
  exact (transition_ensures j hdecides).of_error htransition

/-! ## A response that is half committed -/

/-- A step that binds the status, and then looks for anything at a position of the body or, if
    none is given, for a header. -/
def branchingStep (position : Option (List Char)) : Step :=
  { plainStep "create" none with
    extract := [⟨.status, "", "code", none, none⟩]
    branches := [⟨⟨position.map positionPath, none, some "retry", [(.present, .bool true)]⟩,
      "create"⟩] }

def branchingJourney (position : Option (List Char)) : Journey :=
  plainJourney [branchingStep position]

theorem branchingStep_decides (r : Response) : Decides (branchingStep none) r := by
  intro b hb
  obtain rfl := List.mem_singleton.1 hb
  refine ⟨⟨fun n hn => (nomatch hn), ?_⟩, fun f hbreaks => ?_⟩
  · rintro _ _ ⟨rfl⟩
    rfl
  · cases hbreaks with
    | field hfield _ => cases hfield
    | operand hoperator hdeep =>
      cases hoperator
      exact absurd hdeep (Nat.not_lt_zero _)

/-- The status of a plain response is bound to any name. -/
theorem runAll_status (n : String) :
    Extraction.runAll (plainResponse 200) [⟨.status, "", n, none, none⟩]
      = .ok ⟨[(.text n, .int 200)], []⟩ := by
  have hwritten : (Value.int 200).written? = some "200" :=
    Value.intText?_of_lt (k := 3) (by decide) (by decide)
  have hrun : Extraction.run ⟨.status, "", n, none, none⟩ (plainResponse 200)
      = .ok (.int 200) := rfl
  simp only [Extraction.runAll, Extraction.runAll.step, List.foldlM_cons, List.foldlM_nil, hrun,
    hwritten]
  rfl

theorem branchingStep_runAll (position : Option (List Char)) :
    Extraction.runAll (plainResponse 200) (branchingStep position).extract
      = .ok ⟨[(.text "code", .int 200)], []⟩ :=
  runAll_status "code"

/-- The step that looks for a header commits all. -/
theorem branchingStep_allOrNothing :
    Decides (branchingStep none) (plainResponse 200) ∧
    AllOrNothing (branchingStep none) ((branchingJourney none).newState [])
      ((branchingJourney none).process (branchingStep none) (plainResponse 200)
        ((branchingJourney none).newState [])) :=
  ⟨branchingStep_decides _, (process_allOrNothing_unless _ _ _ _).2 (branchingStep_decides _)⟩

/-- The document of that journey. -/
def branchingDocument (path : String) : Value :=
  .object [("id", .text "shop"), ("name", .text "Shop"), ("steps", .list [.object [
    ("id", .text "create"),
    ("request", .object [("method", .text "GET"), ("url", .text "/create")]),
    ("extract", .list [.object [("type", .text "status"), ("as", .text "code")]]),
    ("branches", .list [.object [
      ("condition", .object [
        ("field", .text path), ("header", .text "retry"), ("exists", .bool true)]),
      ("goto", .text "create")]])]])]

theorem read_branchingDocument (digits : List Char) :
    Journey.read (branchingDocument (positionPath digits)) =
      .accepted (branchingJourney (some digits)) := by
  unfold branchingJourney branchingStep
  rw [Option.map_some]
  generalize positionPath digits = path
  cbv

/-- When the position has too many digits the status is bound, and the step is not executed. -/
theorem branchingStep_process :
    (branchingJourney (some nines)).process (branchingStep (some nines)) (plainResponse 200)
      ((branchingJourney (some nines)).newState []) =
    (.error .badValue, ⟨some "create", [(.text "code", .int 200)], [], some "create"⟩) := by
  have htransition : (branchingJourney (some nines)).transition (branchingStep (some nines))
      (plainResponse 200) = .error .badValue := by
    have hmet : isMet ⟨some (positionPath nines), none, some "retry", [(.present, .bool true)]⟩
        (plainResponse 200) = .error .badValue :=
      isMet_longPosition nines_decimal nines_long rfl _
    simp only [transition, branchingStep, Option.map_some, takenBranch?, hmet]
    rfl
  unfold process
  rw [branchingStep_runAll]
  dsimp only
  rw [htransition]
  rfl

theorem process_not_allOrNothing : ¬ ∀ (v : Value) (j : Journey) (s : Step) (r : Response)
    (before : FlowState), Journey.read v = .accepted j → s ∈ j.steps →
    AllOrNothing s before (j.process s r before) := by
  intro h
  have hall := h _ _ (branchingStep (some nines)) (plainResponse 200)
    ((branchingJourney (some nines)).newState []) (read_branchingDocument nines) List.mem_cons_self
  rw [branchingStep_process] at hall
  cases congrArg FlowState.bindings hall

end Journey

end ApiJourney
