-- SUMMARY: Whether a response meets a condition.
import ApiJourney.Extraction.Evaluation
import ApiJourney.Journey.Condition

/-!
# Conditions on responses

The subject of a condition is the value that its path or header names, which may
be absent. An operator that cannot be applied to its subject does not hold. A
path that is no path does not hold either, whatever the operator.
-/

namespace ApiJourney.Condition

/-! ## Subjects -/

/-- The value at a path of a body; absent when nothing is there or the body is no document. -/
def fieldSubject (body : Value) (path : String) : Except Fault (Option Value) :=
  if body.isNull then .ok none
  else match Body.document body with
    | .error f => if f.isValue then .ok none else .error f
    | .ok document =>
      match Query.evaluate path document with
      | .error (.error _) => .ok none
      | .error (.fault f) => .error f
      | .ok found => .ok (Extraction.single? found)

/-- The value of a header; a null one counts as absent. -/
def headerSubject (headers : Entries) (name : String) : Option Value :=
  match Headers.lookup headers name with
  | .null => none
  | v => some v

/-! ## Operators -/

/-- The order of two numbers. -/
def numbersOrdered (op : OrderOp) (v operand : Value) : Bool :=
  if v.isNumber && operand.isNumber then
    match v.reading?, operand.reading? with
    | some a, some b => (a.order b).elim false op.holds
    | _, _ => false
  else false

/-- Whether a text has a match of a regular expression. -/
def fits (v operand : Value) : Bool :=
  match v, operand with
  | .text s, .text p =>
    match Pattern.parse p.toList with
    | .ok pattern => (pattern.search s.toList.toArray).isSome
    | .error _ => false
  | _, _ => false

def containsText (v operand : Value) : Bool :=
  match v, operand with
  | .text s, .text part => (Text.find? part.toList s.toList).isSome
  | _, _ => false

def isPresent : Option Value → Bool
  | some v => !v.isNull
  | none => false

/-- Whether an operator holds of a subject. -/
def holds (o : Operator) (operand : Value) (subject : Option Value) : Bool :=
  match o with
  | .eq => subject.any (·.strictEqual operand)
  | .ne => subject.all fun v => !v.strictEqual operand
  | .gt => subject.any fun v => numbersOrdered .gt v operand
  | .gte => subject.any fun v => numbersOrdered .ge v operand
  | .lt => subject.any fun v => numbersOrdered .lt v operand
  | .lte => subject.any fun v => numbersOrdered .le v operand
  | .contains => subject.any fun v => containsText v operand
  | .fits => subject.any fun v => fits v operand
  | .present =>
    match operand with
    | .bool false => !isPresent subject
    | _ => isPresent subject
  | .among =>
    match operand with
    | .list items => subject.any fun v => items.any (v.strictEqual ·)
    | _ => false

/-- A condition without an operator does not hold. -/
def operatorHolds (c : Condition) (subject : Option Value) : Bool :=
  match c.operator? with
  | some (o, operand) => holds o operand subject
  | none => false

/-- Whether a response meets a condition. A path counts first, then a status, then a header. -/
def isMet (c : Condition) (r : Response) : Except Fault Bool :=
  match c.field, c.status, c.header with
  | some path, _, _ =>
    match Query.parse path with
    | .error (.error _) => .ok false
    | .error (.fault f) => .error f
    | .ok _ => (fieldSubject r.body path).map c.operatorHolds
  | none, some n, _ => .ok (r.status == n)
  | none, none, some name => .ok (c.operatorHolds (headerSubject r.headers name))
  | none, none, none => .ok false

end ApiJourney.Condition
