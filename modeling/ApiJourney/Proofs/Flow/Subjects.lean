-- SUMMARY: Conditions and extractions see the same value of a response.
import ApiJourney.Proofs.Flow.Operators
import ApiJourney.Proofs.Query.Spelling

/-!
# Subjects and extracted values

A condition looks for its subject and an extraction for its value, each in its own way: both read
the body, follow the path and collapse the matches, or look for a header. They see the same. The
subject is absent where the lookup fails, it is the value that is found otherwise, and a fault of
the one is a fault of the other. This is about paths that are paths; any other path refuses the
condition before there is a subject.
-/

namespace ApiJourney.Condition

open Extraction

/-- A subject and the outcome of a lookup that say the same. -/
inductive Agree : Except Fault (Option Value) → Extracts → Prop where
  | absent (x : ExtractionError) : Agree (.ok none) (.error (.error x))
  | value (v : Value) : Agree (.ok (some v)) (.ok v)
  | fault (f : Fault) : Agree (.error f) (.error (.fault f))

namespace Agree

variable {subject : Except Fault (Option Value)} {found : Extracts}

theorem absent_iff (h : Agree subject found) :
    subject = .ok none ↔ ∃ x, found = .error (.error x) := by
  cases h <;> simp

theorem value_iff (h : Agree subject found) (v : Value) :
    subject = .ok (some v) ↔ found = .ok v := by
  cases h <;> simp

theorem fault_iff (h : Agree subject found) (f : Fault) :
    subject = .error f ↔ found = .error (.fault f) := by
  cases h <;> simp

theorem present_iff (h : Agree subject found) :
    subject.map (holds .present (.bool true)) = .ok true ↔ ∃ v, found = .ok v ∧ v ≠ .null := by
  cases h with
  | absent x => simp [Except.map, holds, isPresent]
  | value v => cases v <;> simp [Except.map, holds, isPresent, Value.isNull]
  | fault f => simp [Except.map]

end Agree

/-! ## Bodies -/

/-- The one match or the list of all of them, on both sides. -/
theorem agree_single (path : String) (found : List Value) :
    Agree (.ok (single? found))
      (match single? found with
        | some v => .ok v
        | none => .error (.error (.noMatch path))) := by
  cases single? found with
  | none => exact .absent _
  | some v => exact .value v

theorem agree_field {path : String} {q : Query} (hparse : Query.parse path = .ok q)
    (body : Value) : Agree (fieldSubject body path) (fromPath body path) := by
  unfold fieldSubject fromPath
  split_ifs with hnull
  · exact .absent _
  · cases Body.document body with
    | error f =>
      dsimp only
      split_ifs with hvalue
      · exact .absent _
      · exact .fault f
    | ok document =>
      simp only [Query.evaluate_of_parse hparse]
      -- A path that is one is not refused while it is followed.
      cases Query.matchesFrom q [document] with
      | error f => exact .fault f
      | ok found => exact agree_single path found

/-! ## Headers -/

/-- A header that is null is absent on both sides. -/
theorem agree_header (headers : Entries) (name : String) :
    Agree (.ok (headerSubject headers name)) (fromHeader headers name) := by
  unfold headerSubject fromHeader
  cases Headers.lookup headers name with
  | null => exact .absent _
  | _ => exact .value _

/-! ## Sources -/

namespace Source

/-- A source that can be looked at; a path has to be one. -/
def IsAccepted : Source → Prop
  | field path => ∃ q, Query.parse path = .ok q
  | header _ => True

/-- What a condition on a source applies its operator to. -/
def subject (r : Response) : Source → Except Fault (Option Value)
  | field path => fieldSubject r.body path
  | header name => .ok (headerSubject r.headers name)

/-- An extraction that takes its value from the source. -/
inductive SeenBy : Source → Extraction → Prop where
  | field {e : Extraction} {path : String} :
      e.kind = .jsonPath → e.path = path → SeenBy (.field path) e
  | header {e : Extraction} {name : String} :
      e.kind = .header → e.path = name → SeenBy (.header name) e

variable {source : Source} {e : Extraction}

theorem agree_lookup (haccepted : source.IsAccepted) (hseen : source.SeenBy e) (r : Response) :
    Agree (source.subject r) (e.lookup r) := by
  cases hseen with
  | field hkind hpath =>
    obtain ⟨q, hparse⟩ := haccepted
    rw [lookup, hkind, hpath]
    exact agree_field hparse r.body
  | @header _ name hkind hpath =>
    rw [lookup, hkind, hpath]
    exact agree_header r.headers name

/-- The verdict is that of the operator on the subject. -/
theorem isMet_eq_map (haccepted : source.IsAccepted) (o : Operator) (operand : Value)
    (r : Response) :
    (source.comparing o operand).isMet r = (source.subject r).map (holds o operand) := by
  cases source with
  | field path =>
    obtain ⟨q, hparse⟩ := haccepted
    simp only [isMet, comparing, hparse]
    rfl
  | header name => rfl

end Source

theorem run_bare {e : Extraction} (hdefault : e.default = none) (htransform : e.transform = none)
    (r : Response) : e.run r = e.lookup r := by
  have hfound : e.orDefault (e.lookup r) = e.lookup r := by
    rw [orDefault.eq_def, hdefault]
    cases e.lookup r with
    | ok v => rfl
    | error x => cases x <;> rfl
  rw [run, hfound, htransform]
  cases e.lookup r <;> rfl

/-- The subject of a condition is absent where the extraction of the same source fails, and is what
    the extraction looks up otherwise; their faults are the same too. So the source is there for a
    condition that asks whether it is, exactly if the bare extraction gives a value other than
    null. -/
theorem subject_iff_lookup {source : Source} {e : Extraction} (haccepted : source.IsAccepted)
    (hseen : source.SeenBy e) (r : Response) :
    (source.subject r = .ok none ↔ ∃ x, e.lookup r = .error (.error x)) ∧
    (∀ v, source.subject r = .ok (some v) ↔ e.lookup r = .ok v) ∧
    (∀ f, source.subject r = .error f ↔ e.lookup r = .error (.fault f)) ∧
    (e.default = none → e.transform = none →
      ((source.comparing .present (.bool true)).isMet r = .ok true ↔
        ∃ v, e.run r = .ok v ∧ v ≠ .null)) := by
  have hagree := Source.agree_lookup haccepted hseen r
  refine ⟨hagree.absent_iff, hagree.value_iff, hagree.fault_iff, fun hdefault htransform => ?_⟩
  rw [Source.isMet_eq_map haccepted, run_bare hdefault htransform]
  exact hagree.present_iff

/-- The weight of an order. -/
def weight : Extraction :=
  ⟨.jsonPath, "$.x", "weight", none, none⟩

/-- There is a weight, and a condition and an extraction see two and a half. -/
theorem weighedResponse_weight :
    (Source.field "$.x").IsAccepted ∧ (Source.field "$.x").SeenBy weight ∧
      weight.default = none ∧ weight.transform = none ∧
      (Source.field "$.x").subject weighedResponse = .ok (some (.float 2.5)) ∧
      weight.lookup weighedResponse = .ok (.float 2.5) ∧
      ((Source.field "$.x").comparing .present (.bool true)).isMet weighedResponse = .ok true := by
  have haccepted : (Source.field "$.x").IsAccepted := ⟨_, Journey.parse_member⟩
  have hseen : (Source.field "$.x").SeenBy weight := .field rfl rfl
  have hsubject : (Source.field "$.x").subject weighedResponse = .ok (some (.float 2.5)) := by
    cases weighedResponse_yields with
    | field _ hsubject => exact hsubject
  obtain ⟨-, hvalue, -, hpresent⟩ := subject_iff_lookup haccepted hseen weighedResponse
  have hlookup := (hvalue _).1 hsubject
  refine ⟨haccepted, hseen, rfl, rfl, hsubject, hlookup, (hpresent rfl rfl).2 ⟨.float 2.5, ?_, ?_⟩⟩
  · rw [run_bare rfl rfl, hlookup]
  · exact Value.noConfusion

end ApiJourney.Condition
