-- SUMMARY: Conditions of branches.
import ApiJourney.Fault
import ApiJourney.Schema.Record
import ApiJourney.Value.Basic

/-!
# Conditions

A condition takes a value from a response (by a path into the body, or a header)
and compares it by an operator, or it asks for a status. An operator counts when
it is written, whatever its operand: an operand may be null. Of several
operators the first in the fixed order counts.
-/

namespace ApiJourney

inductive Operator where
  | eq | ne | gt | gte | lt | lte | contains | fits | present | among
  deriving DecidableEq

namespace Operator

/-- The order in which operators count. -/
def all : List Operator :=
  [.eq, .ne, .gt, .gte, .lt, .lte, .contains, .fits, .present, .among]

def name : Operator → String
  | eq => "eq"
  | ne => "ne"
  | gt => "gt"
  | gte => "gte"
  | lt => "lt"
  | lte => "lte"
  | contains => "contains"
  | fits => "matches"
  | present => "exists"
  | among => "in"

/-- The names under which a document may hold an operator. -/
def names : Operator → List String
  | among => ["in", "in_"]
  | o => [o.name]

open Schema in
/-- Reads an operand. -/
def readOperand (o : Operator) : Value → Verdict Value :=
  match o with
  | eq => anything
  | ne => anything
  | gt => number
  | gte => number
  | lt => number
  | lte => number
  | contains => words
  | fits => words
  | present => fun v => Value.ofOption .bool <$> nullable boolean v
  | among => fun v => Value.ofOption .list <$> nullable (list anything) v
where
  number (v : Value) := Value.ofOption id <$> nullable strictNumber v
  words (v : Value) := Value.ofOption .text <$> nullable text v

end Operator

structure Condition where
  field : Option String
  status : Option Int
  header : Option String
  /-- The operators that are written, in the fixed order, with their operands. -/
  operands : List (Operator × Value)

namespace Condition

open Schema

def readOperands (es : Entries) : List Operator → Verdict (List (Operator × Value))
  | [] => .accepted []
  | o :: rest =>
    match lookup? es o.names with
    | none => readOperands es rest
    | some (k, v) =>
      List.cons <$> ((fun w => (o, w)) <$> (o.readOperand v).under (.field k)) <*> readOperands es rest

def read (v : Value) : Verdict Condition :=
  record "Condition" v fun es =>
    Condition.mk
      <$> optional es ["field"] text
      <*> optional es ["status"] integer
      <*> optional es ["header"] text
      <*> readOperands es Operator.all

def toValue (c : Condition) : Value :=
  .object <|
    [("field", .ofOption .text c.field),
     ("status", .ofOption .int c.status),
     ("header", .ofOption .text c.header)]
    ++ Operator.all.map fun o => (o.name, (c.operands.lookup o).getD .null)

/-- The operator that counts, with its operand. -/
def operator? (c : Condition) : Option (Operator × Value) :=
  c.operands.head?

/-- The operator and its operand as words. -/
def operatorText? (c : Condition) : Option String :=
  match c.operator? with
  | none => some "<no operator>"
  | some (o, v) => v.written?.map fun t => s!"{o.name} {t}"

def sourceText (c : Condition) : String :=
  match c.field, c.header with
  | some f, _ => s!"field {f}"
  | none, some h => s!"header {h}"
  | none, none => "<no source>"

/-- A condition in words; an operand without a written form is a fault. -/
def describe (c : Condition) : Except Fault String :=
  match c.field, c.status with
  | none, some n =>
    match Value.intText? n with
    | some t => .ok s!"status == {t}"
    | none => .error .badValue
  | _, _ =>
    match c.operatorText? with
    | some t => .ok s!"{c.sourceText} {t}"
    | none => .error .badValue

end Condition

end ApiJourney
