-- SUMMARY: Arithmetic of transforms on integers, doubles and complex numbers.
import ApiJourney.Fault
import ApiJourney.Value.Basic

/-!
# Arithmetic

Integers are unbounded and doubles follow the binary64 format. An operation on
numbers of two types converts to the wider one; an integer that is too large
for a double is a fault, and so is a division by zero. Division to an integer
rounds down, and the remainder has the sign of the divisor.
-/

namespace ApiJourney.Transform

inductive Number where
  | int (n : Int)
  | float (x : Float)
  | complex (re im : Float)

def Number.value : Number → Value
  | .int n => .int n
  | .float x => .float x
  | .complex re im => .complex re im

/-- The number of a value; truth values are integers. -/
def number? : Value → Option Number
  | .bool b => some (.int (if b then 1 else 0))
  | .int n => some (.int n)
  | .float x => some (.float x)
  | .complex re im => some (.complex re im)
  | _ => none

def toDouble (n : Int) : Except Fault Float :=
  match Binary64.ofInt? n with
  | some x => .ok x
  | none => .error .overflow

/-! ## Conversion to the wider type -/

/-- Two numbers of one type. -/
inductive Pair where
  | ints (a b : Int)
  | floats (a b : Float)
  | complexes (a b : Float × Float)

def Number.toFloat : Number → Except Fault Float
  | .int n => toDouble n
  | .float x => .ok x
  | .complex _ _ => .error .wrongType

def Number.toComplex : Number → Except Fault (Float × Float)
  | .complex re im => .ok (re, im)
  | n => n.toFloat.map fun x => (x, Binary64.zero false)

def widen : Number → Number → Except Fault Pair
  | .int a, .int b => .ok (.ints a b)
  | .complex re im, b => do
    let b ← b.toComplex
    .ok (.complexes (re, im) b)
  | a, .complex re im => do
    let a ← a.toComplex
    .ok (.complexes a (re, im))
  | a, b => do
    let x ← a.toFloat
    let y ← b.toFloat
    .ok (.floats x y)

/-! ## Doubles -/

def isZero (x : Float) : Bool :=
  (Binary64.reading x).isZero

/-- The remainder that has the sign of the dividend, exactly. -/
def truncatedRemainder (x y : Float) : Float :=
  match Binary64.reading x, Binary64.reading y with
  | .finite _ _, .infinite _ => x
  | .finite m e, .finite n f =>
    let unit := min e f
    let r := Int.tmod (Reading.inUnits m e unit) (Reading.inUnits n f unit)
    Binary64.ofScaled (Binary64.isNegative x) r.natAbs unit
  | _, _ => Binary64.nan

/-- The remainder that has the sign of the divisor. -/
def floatMod (x y : Float) : Float :=
  let r := truncatedRemainder x y
  if isZero r then Binary64.zero (Binary64.isNegative y)
  else if (y < 0.0) != (r < 0.0) then r + y
  else r

/-- The greatest whole double that is not above. -/
def wholePart (x : Float) : Float :=
  match Binary64.reading x with
  | .finite m e =>
    let n := Binary64.floor m e
    if n = 0 then Binary64.zero (Binary64.isNegative x) else Binary64.nearest (n < 0) n.natAbs 1
  | _ => x

/-- The quotient rounded down, consistent with the remainder. -/
def floatFloorDiv (x y : Float) : Float :=
  let r := truncatedRemainder x y
  let quotient := (x - r) / y
  let quotient := if !isZero r && (y < 0.0) != (r < 0.0) then quotient - 1.0 else quotient
  if isZero quotient then Binary64.zero (Binary64.isNegative (x / y))
  else
    let whole := wholePart quotient
    if 0.5 < quotient - whole then whole + 1.0 else whole

/-! ## Complex numbers -/

def complexMul (a b : Float × Float) : Value :=
  .complex (a.1 * b.1 - a.2 * b.2) (a.1 * b.2 + a.2 * b.1)

def complexDiv (a b : Float × Float) : Except Fault Value :=
  let re := if b.1 < 0.0 then -b.1 else b.1
  let im := if b.2 < 0.0 then -b.2 else b.2
  if im ≤ re then
    if isZero re then .error .divisionByZero
    else
      let ratio := b.2 / b.1
      let scale := b.1 + b.2 * ratio
      .ok (.complex ((a.1 + a.2 * ratio) / scale) ((a.2 - a.1 * ratio) / scale))
  else if re ≤ im then
    let ratio := b.1 / b.2
    let scale := b.1 * ratio + b.2
    .ok (.complex ((a.1 * ratio + a.2) / scale) ((a.2 * ratio - a.1) / scale))
  else .ok (.complex Binary64.nan Binary64.nan)

/-- The nearest double to the absolute value of a complex number. -/
def complexAbs (re im : Float) : Except Fault Value :=
  match Binary64.reading re, Binary64.reading im with
  | .infinite _, _ => .ok (.float (Binary64.infinity false))
  | _, .infinite _ => .ok (.float (Binary64.infinity false))
  | .nan, _ => .ok (.float Binary64.nan)
  | _, .nan => .ok (.float Binary64.nan)
  | .finite m e, .finite n f =>
    let unit := min e f - 64
    let a := Reading.inUnits m e unit
    let b := Reading.inUnits n f unit
    let square := a * a + b * b
    let root := square.natAbs.sqrt
    let x := Binary64.ofScaled false root unit
    if Binary64.reading x == .infinite false then .error .overflow else .ok (.float x)

/-! ## Operations -/

def addNumbers : Pair → Except Fault Value
  | .ints a b => .ok (.int (a + b))
  | .floats a b => .ok (.float (a + b))
  | .complexes a b => .ok (.complex (a.1 + b.1) (a.2 + b.2))

def subNumbers : Pair → Except Fault Value
  | .ints a b => .ok (.int (a - b))
  | .floats a b => .ok (.float (a - b))
  | .complexes a b => .ok (.complex (a.1 - b.1) (a.2 - b.2))

def mulNumbers : Pair → Except Fault Value
  | .ints a b => .ok (.int (a * b))
  | .floats a b => .ok (.float (a * b))
  | .complexes a b => .ok (complexMul a b)

def divNumbers : Pair → Except Fault Value
  | .ints a b =>
    if b = 0 then .error .divisionByZero
    else match Binary64.nearest? ((a < 0) != (b < 0)) a.natAbs b.natAbs with
      | some x => .ok (.float x)
      | none => .error .overflow
  | .floats a b => if isZero b then .error .divisionByZero else .ok (.float (a / b))
  | .complexes a b => complexDiv a b

def floorDivNumbers : Pair → Except Fault Value
  | .ints a b => if b = 0 then .error .divisionByZero else .ok (.int (Int.fdiv a b))
  | .floats a b => if isZero b then .error .divisionByZero else .ok (.float (floatFloorDiv a b))
  | .complexes _ _ => .error .wrongType

def modNumbers : Pair → Except Fault Value
  | .ints a b => if b = 0 then .error .divisionByZero else .ok (.int (Int.fmod a b))
  | .floats a b => if isZero b then .error .divisionByZero else .ok (.float (floatMod a b))
  | .complexes _ _ => .error .wrongType

/-- An operation on two values that must be numbers. -/
def onNumbers (op : Pair → Except Fault Value) (a b : Value) : Except Fault Value :=
  match number? a, number? b with
  | some x, some y => do
    let p ← widen x y
    op p
  | _, _ => .error .wrongType

def negate (v : Value) : Except Fault Value :=
  match number? v with
  | some (.int n) => .ok (.int (-n))
  | some (.float x) => .ok (.float (-x))
  | some (.complex re im) => .ok (.complex (-re) (-im))
  | none => .error .wrongType

end ApiJourney.Transform
