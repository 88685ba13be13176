-- SUMMARY: When a condition has a verdict, and why it can have none.
import ApiJourney.Flow.Verdict
import ApiJourney.Proofs.Response.Content

/-!
# Verdicts

A condition holds or does not hold, unless its path breaks: then there is no verdict, but a
fault. Statuses and headers always have a verdict, and so do all operators, as far as the operand
is followed: an operand that is nested too deeply may not even be put into the words of a report.
-/

namespace ApiJourney.Condition

open Text Numeral

theorem fieldSubject_ensures (body : Value) (path : String) :
    Ensures (fieldSubject body path) (fun _ => True) (Body.Breaks body path) := by
  unfold fieldSubject
  split_ifs
  · trivial
  · split
    · next f hf =>
      split_ifs with hvalue
      · trivial
      · exact .of_document hf hvalue
    · next document _ =>
      have hmatches := Query.evaluate_ensures path document
      split
      · trivial
      · next f hf => exact .inl (hmatches.of_error hf)
      · trivial

/-- Why a condition may have no verdict on a response. -/
inductive Breaks (c : Condition) (r : Response) : Fault → Prop where
  /-- The path breaks, or the body that it leads into does. -/
  | field {path : String} {f : Fault} : c.field = some path → Body.Breaks r.body path f →
      Breaks c r f
  /-- The operand is nested deeper than what is followed in any place. -/
  | operand {o : Operator} {v : Value} {f : Fault} : c.operator? = some (o, v) →
      plainNesting < v.nesting → Breaks c r f

/-- A condition has a verdict, or it breaks. -/
theorem isMet_ensures (c : Condition) (r : Response) :
    Ensures (c.isMet r) (fun _ => True) (c.Breaks r) := by
  unfold isMet
  split
  · next _ _ path hfield =>
    have hparse := Query.parse_ensures path
    split
    · trivial
    · next f hf => exact .field hfield (.inl (hparse.of_error hf))
    · exact ((fieldSubject_ensures r.body path).imp (fun _ h => h) fun f hf =>
        .field hfield hf).map
  · trivial
  · trivial
  · trivial

/-- The path of a position with the given digits. -/
def positionPath (digits : List Char) : String :=
  String.ofList ('$' :: '[' :: (digits ++ [']']))

theorem isMet_longPosition {c : Condition} {digits : List Char}
    (hdigits : ∀ d ∈ digits, isDecimal d = true) (hlong : Numeral.maxDigits < digits.length)
    (hfield : c.field = some (positionPath digits)) (r : Response) :
    c.isMet r = .error .badValue := by
  unfold isMet
  simp only [hfield, positionPath, Query.parse_longIndex hdigits hlong]

/-- A condition has a verdict unless its path has too many digits in a row, or its path, the text
    of the body or its operand is nested too deeply; a position with too many digits never has
    one. -/
theorem isMet_unless_breaks (c : Condition) (r : Response) :
    ((∃ b, c.isMet r = .ok b) ∨ ∃ f, c.isMet r = .error f ∧ c.Breaks r f) ∧
    (∀ digits : List Char, (∀ d ∈ digits, isDecimal d = true) →
      Numeral.maxDigits < digits.length → c.field = some (positionPath digits) →
      c.isMet r = .error .badValue) := by
  refine ⟨?_, fun digits hdigits hlong hfield => isMet_longPosition hdigits hlong hfield r⟩
  exact (isMet_ensures c r).ok_or_error.imp_left fun ⟨b, hmet, _⟩ => ⟨b, hmet⟩

/-! ## A condition without a verdict -/

/-- Whether there is anything at a position with too many digits. -/
def longCondition : Condition :=
  ⟨some (positionPath nines), none, none, [(.present, .bool true)]⟩

/-- A list of one number. -/
def listResponse : Response :=
  ⟨200, [], .list [.int 1], Binary64.zero false⟩

theorem longCondition_badValue : longCondition.isMet listResponse = .error .badValue :=
  (isMet_unless_breaks longCondition listResponse).2 nines nines_decimal nines_long rfl

theorem longCondition_read :
    read (.object [("field", .text (positionPath nines)), ("exists", .bool true)]) =
      .accepted longCondition :=
  rfl

theorem isMet_not_total : ¬ ∀ (v : Value) (c : Condition) (r : Response),
    read v = .accepted c → ∃ b, c.isMet r = .ok b := by
  intro h
  obtain ⟨b, hb⟩ := h _ longCondition listResponse longCondition_read
  rw [isMet_longPosition nines_decimal nines_long rfl] at hb
  cases hb

end ApiJourney.Condition
