-- SUMMARY: The order of values that hold no others.
import ApiJourney.Fault
import ApiJourney.Value.Equality

/-!
# Order of values

Numbers, texts and byte strings are ordered among themselves. Other pairs of atoms
have no order, and to ask for one is a fault.
-/

namespace ApiJourney

inductive OrderOp where
  | lt | le | gt | ge
  deriving DecidableEq

def OrderOp.holds : OrderOp → Ordering → Bool
  | .lt, o => o == .lt
  | .le, o => o != .gt
  | .gt, o => o == .gt
  | .ge, o => o != .lt

namespace Value

def bytesOrder : List UInt8 → List UInt8 → Ordering
  | [], [] => .eq
  | [], _ => .lt
  | _, [] => .gt
  | a :: as, b :: bs => if a < b then .lt else if b < a then .gt else bytesOrder as bs

/-- The order of two values that hold no others. -/
def atomOrdered (op : OrderOp) (a b : Value) : Except Fault Bool :=
  match a, b with
  | .text s, .text t => .ok (op.holds (compare s t))
  | .bytes s, .bytes t => .ok (op.holds (bytesOrder s t))
  | a, b =>
    match a.reading?, b.reading? with
    | some x, some y => .ok ((x.order y).elim false op.holds)
    | _, _ => .error .wrongType

/-- The items that a value is iterated by. -/
def iterate : Value → Except Fault (List Value)
  | .list xs => .ok xs
  | .tuple xs => .ok xs
  | .text s => .ok (s.toList.map fun c => .text (String.ofList [c]))
  | .bytes bs => .ok (bs.map fun b => .int b.toNat)
  | .dict es => .ok (es.map Prod.fst)
  | _ => .error .wrongType

end Value

end ApiJourney
