-- SUMMARY: How the operators of conditions relate to each other.
import ApiJourney.Proofs.Flow.Verdict
import ApiJourney.Proofs.Response.Textual
import ApiJourney.Proofs.Value.Equality

/-!
# Operators of conditions

A source that can be evaluated yields a subject, which may be absent, and every operator has a
verdict on it. Two of the operators are negations and one is a disjunction, absent subjects
included. Against a number, the operators of order and equality only look at the order of the
subject and that number. There is one if both are numbers and none of them is a NaN.
-/

namespace ApiJourney

namespace Value

/-- A number other than NaN. -/
structure IsOrdered (v : Value) : Prop where
  number : v.isNumber = true
  not_nan : v.reading? ≠ some .nan

theorem exists_reading {v : Value} (h : v.isNumber = true) : ∃ a, v.reading? = some a := by
  cases v <;> cases h <;> exact ⟨_, rfl⟩

theorem strictEqual_number {v x : Value} (hv : v.isNumber = false) (hx : x.isNumber = true) :
    v.strictEqual x = false := by
  cases x <;> cases hx <;> cases v <;> first | rfl | cases hv

end Value

theorem Reading.exists_order {a b : Reading} (ha : a ≠ .nan) (hb : b ≠ .nan) :
    ∃ o, a.order b = some o := by
  cases a <;> cases b <;> first | exact ⟨_, rfl⟩ | exact (ha rfl).elim | exact (hb rfl).elim

namespace Condition

/-! ## Sources -/

/-- Where a condition takes its subject from. -/
inductive Source where
  | field (path : String)
  | header (name : String)

namespace Source

/-- The condition that applies a single operator to a source. -/
def comparing (o : Operator) (operand : Value) : Source → Condition
  | field path => ⟨some path, none, none, [(o, operand)]⟩
  | header name => ⟨none, none, some name, [(o, operand)]⟩

/-- The subject that a source has in a response. The path of a field has to be accepted, and its
    evaluation must not end with a fault. -/
inductive Yields (r : Response) : Source → Option Value → Prop where
  | field {path : String} {q : Query} {subject : Option Value} :
      Query.parse path = .ok q → fieldSubject r.body path = .ok subject →
      Yields r (.field path) subject
  | header (name : String) : Yields r (.header name) (headerSubject r.headers name)

end Source

variable {source : Source} {r : Response} {subject : Option Value} {x : Value}

theorem isMet_comparing (h : source.Yields r subject) (o : Operator) (operand : Value) :
    (source.comparing o operand).isMet r = .ok (holds o operand subject) := by
  cases h with
  | field hparse hsubject =>
    simp only [isMet, Source.comparing, hparse, hsubject]
    rfl
  | header name => rfl

/-! ## Negations and disjunctions -/

theorem holds_ne (v : Value) : holds .ne v subject = !holds .eq v subject := by
  cases subject <;> rfl

theorem holds_among (items : List Value) :
    holds .among (.list items) subject = items.any fun v => holds .eq v subject := by
  cases subject with
  | none => simp [holds]
  | some v => rfl

theorem holds_absent :
    holds .present (.bool false) subject = !holds .present (.bool true) subject :=
  rfl

/-! ## Order -/

/-- The order of a subject and a number. -/
def order? (subject : Option Value) (x : Value) : Option Ordering := do
  let v ← subject
  if v.isNumber then (← v.reading?).order (← x.reading?) else none

/-- The operator that asks for an order. -/
def ordering : OrderOp → Operator
  | .lt => .lt
  | .le => .lte
  | .gt => .gt
  | .ge => .gte

theorem order?_of_number {v : Value} (hv : v.isNumber = true) (hx : x.isNumber = true) :
    ∃ a b, v.reading? = some a ∧ x.reading? = some b ∧ order? (some v) x = a.order b := by
  obtain ⟨a, ha⟩ := Value.exists_reading hv
  obtain ⟨b, hb⟩ := Value.exists_reading hx
  exact ⟨a, b, ha, hb, by simp [order?, hv, ha, hb]⟩

theorem order?_of_not_number {v : Value} (hv : v.isNumber = false) : order? (some v) x = none := by
  simp [order?, hv]

theorem exists_order? {v : Value} (hv : v.IsOrdered) (hx : x.IsOrdered) :
    ∃ o, order? (some v) x = some o := by
  obtain ⟨a, b, ha, hb, horder⟩ := order?_of_number hv.number hx.number
  have hnan : a ≠ .nan := by
    rintro rfl
    exact hv.not_nan ha
  have hnan' : b ≠ .nan := by
    rintro rfl
    exact hx.not_nan hb
  rw [horder]
  exact Reading.exists_order hnan hnan'

theorem holds_ordering (hx : x.isNumber = true) (op : OrderOp) :
    holds (ordering op) x subject = (order? subject x).any op.holds := by
  cases subject with
  | none => cases op <;> rfl
  | some v =>
    have hholds : holds (ordering op) x (some v) = numbersOrdered op v x := by cases op <;> rfl
    rw [hholds, numbersOrdered]
    cases hv : v.isNumber with
    | false =>
      rw [order?_of_not_number hv]
      rfl
    | true =>
      obtain ⟨a, b, ha, hb, horder⟩ := order?_of_number hv hx
      simp only [hx, Bool.and_self, if_true, ha, hb, horder]
      cases a.order b <;> rfl

/-- What is no number has no order, and it is strictly equal to no number either. -/
theorem holds_eq_number (hx : x.isNumber = true) :
    holds .eq x subject = (order? subject x).any (· == .eq) := by
  cases subject with
  | none => rfl
  | some v =>
    rw [holds, Option.any_some]
    cases hv : v.isNumber with
    | false =>
      rw [order?_of_not_number hv, Value.strictEqual_number hv hx]
      rfl
    | true =>
      obtain ⟨a, b, ha, hb, horder⟩ := order?_of_number hv hx
      rw [horder, Value.strictEqual_numbers hv hx ha hb, Value.sameNumber]
      cases a.order b <;> rfl

theorem holds_gte (hx : x.isNumber = true) :
    holds .gte x subject = (holds .gt x subject || holds .eq x subject) := by
  have hge : holds .gte x subject = _ := holds_ordering hx .ge
  have hgt : holds .gt x subject = _ := holds_ordering hx .gt
  rw [hge, hgt, holds_eq_number hx]
  rcases order? subject x with _ | _ | _ | _ <;> rfl

theorem holds_lte (hx : x.isNumber = true) :
    holds .lte x subject = (holds .lt x subject || holds .eq x subject) := by
  have hle : holds .lte x subject = _ := holds_ordering hx .le
  have hlt : holds .lt x subject = _ := holds_ordering hx .lt
  rw [hle, hlt, holds_eq_number hx]
  rcases order? subject x with _ | _ | _ | _ <;> rfl

/-- One of the three holds where there is an order, and none where there is not. -/
theorem count_holds (hx : x.isNumber = true) :
    [holds .lt x subject, holds .eq x subject, holds .gt x subject].count true
      = if (order? subject x).isSome then 1 else 0 := by
  have hlt : holds .lt x subject = _ := holds_ordering hx .lt
  have hgt : holds .gt x subject = _ := holds_ordering hx .gt
  rw [hlt, hgt, holds_eq_number hx]
  rcases order? subject x with _ | _ | _ | _ <;> rfl

/-! ## Algebra -/

/-- On a source that yields a subject every operator has a verdict, and the verdicts of some
    operators follow from those of others. -/
theorem operators_algebra (h : source.Yields r subject) :
    ∃ C : Operator → Value → Bool,
      (∀ o operand, (source.comparing o operand).isMet r = .ok (C o operand)) ∧
      (∀ v, C .ne v = !C .eq v) ∧
      (∀ items, C .among (.list items) = items.any (C .eq)) ∧
      (C .present (.bool false) = !C .present (.bool true)) ∧
      ∀ x : Value, x.isNumber = true →
        C .gte x = (C .gt x || C .eq x) ∧
        C .lte x = (C .lt x || C .eq x) ∧
        [C .lt x, C .eq x, C .gt x].count true ≤ 1 ∧
        ∀ v, subject = some v → v.IsOrdered → x.IsOrdered →
          [C .lt x, C .eq x, C .gt x].count true = 1 := by
  refine ⟨fun o operand => holds o operand subject, isMet_comparing h, holds_ne, holds_among,
    holds_absent, fun x hx => ⟨holds_gte hx, holds_lte hx, ?_, ?_⟩⟩
  · rw [count_holds hx]
    split <;> decide
  · rintro v rfl hv hx'
    obtain ⟨o, ho⟩ := exists_order? hv hx'
    rw [count_holds hx, ho]
    rfl

/-- An order that weighs two and a half. -/
def weighedResponse : Response :=
  ⟨200, [], .object [("x", .float 2.5)], Binary64.zero false⟩

theorem weighedResponse_yields :
    (Source.field "$.x").Yields weighedResponse (some (.float 2.5)) := by
  refine .field Journey.parse_member ?_
  have hevaluate : Query.evaluate "$.x" weighedResponse.body = .ok [.float 2.5] := by
    rw [Query.evaluate, Journey.parse_member]
    rfl
  have hdocument : Body.document weighedResponse.body = .ok weighedResponse.body := rfl
  rw [fieldSubject, hdocument]
  simp only [hevaluate]
  rfl

/-- The weight is above two, so it is at least two and another number, and neither below two nor
    at most two. -/
theorem weighedResponse_comparisons :
    (Source.field "$.x").Yields weighedResponse (some (.float 2.5)) ∧
      (Value.int 2).isNumber = true ∧ (Value.float 2.5).IsOrdered ∧ (Value.int 2).IsOrdered ∧
      (∀ o ∈ [Operator.gt, .gte, .ne],
        ((Source.field "$.x").comparing o (.int 2)).isMet weighedResponse = .ok true) ∧
      ∀ o ∈ [Operator.lt, .lte, .eq],
        ((Source.field "$.x").comparing o (.int 2)).isMet weighedResponse = .ok false := by
  have hweight : (Value.float 2.5).IsOrdered := ⟨rfl, by decide⟩
  have htwo : (Value.int 2).IsOrdered := ⟨rfl, by decide⟩
  obtain ⟨C, hmet, hne, -, -, hnumbers⟩ := operators_algebra weighedResponse_yields
  obtain ⟨hgte, hlte, -, hcount⟩ := hnumbers (.int 2) rfl
  have hgt : C .gt (.int 2) = true := by
    have hverdict := isMet_comparing weighedResponse_yields .gt (.int 2)
    rw [hmet, Except.ok.injEq] at hverdict
    rw [hverdict]
    decide
  have hone := hcount _ rfl hweight htwo
  have hothers : C .lt (.int 2) = false ∧ C .eq (.int 2) = false := by
    rw [hgt] at hone
    revert hone
    cases C .lt (.int 2) <;> cases C .eq (.int 2) <;> decide
  obtain ⟨hlt, heq⟩ := hothers
  refine ⟨weighedResponse_yields, rfl, hweight, htwo, ?_, ?_⟩
  · simp [hmet, hgt, hgte, hne, heq]
  · simp [hmet, hlt, hlte, heq]

end Condition

end ApiJourney
