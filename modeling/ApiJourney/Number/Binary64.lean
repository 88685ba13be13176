-- SUMMARY: Doubles read as exact numbers, exact comparison, and the double nearest to a quotient.

/-!
# Doubles as exact numbers

A finite double is `mantissa * 2 ^ exponent`. Integers and doubles are compared
by that exact number, and every rounding to a double goes through the double
nearest to a quotient, ties to the even mantissa.
-/

namespace ApiJourney

/-- The number that a double or an integer stands for. -/
inductive Reading where
  | finite (mantissa exponent : Int)
  | infinite (negative : Bool)
  | nan
  deriving DecidableEq

namespace Reading

def ofInt (n : Int) : Reading := .finite n 0

/-- `mantissa * 2 ^ exponent` in units of `2 ^ unit`. -/
def inUnits (mantissa exponent unit : Int) : Int :=
  mantissa * Nat.pow 2 (exponent - unit).toNat

/-- The exact order; a NaN has none. -/
def order : Reading → Reading → Option Ordering
  | .nan, _ => none
  | _, .nan => none
  | .infinite a, .infinite b => some (if a = b then .eq else if a then .lt else .gt)
  | .infinite a, .finite _ _ => some (if a then .lt else .gt)
  | .finite _ _, .infinite b => some (if b then .gt else .lt)
  | .finite m e, .finite n f =>
    some (compare (inUnits m e (min e f)) (inUnits n f (min e f)))

def isZero : Reading → Bool
  | .finite m _ => m == 0
  | _ => false

end Reading

/-! ## Taking doubles apart -/

namespace Binary64

def isNegative (x : Float) : Bool :=
  Nat.pow 2 63 ≤ x.toBits.toNat

/-- The unsigned mantissa and the exponent of the bits of a finite double. -/
def magnitude (bits : Nat) : Nat × Int :=
  let field : Nat := bits / Nat.pow 2 52 % Nat.pow 2 11
  let fraction : Nat := bits % Nat.pow 2 52
  if field = 0 then (fraction, -1074) else (fraction + Nat.pow 2 52, (field : Int) - 1075)

def reading (x : Float) : Reading :=
  let bits := x.toBits.toNat
  if bits / Nat.pow 2 52 % Nat.pow 2 11 = 2047 then
    if bits % Nat.pow 2 52 = 0 then .infinite (isNegative x) else .nan
  else
    let (m, e) := magnitude bits
    .finite (if isNegative x then -(m : Int) else m) e

/-! ## Rounding -/

/-- `num / den` rounded to the nearest integer, a tie to the even one. -/
def roundQuotient (num den : Nat) : Nat :=
  let q := num / den
  let twice := 2 * (num % den)
  if twice < den then q
  else if den < twice then q + 1
  else if q % 2 = 0 then q else q + 1

def withSign (negative : Bool) (bits : Nat) : Float :=
  Float.ofBits (UInt64.ofNat (if negative then bits + Nat.pow 2 63 else bits))

def zero (negative : Bool) : Float := withSign negative 0
def infinity (negative : Bool) : Float := withSign negative (2047 * Nat.pow 2 52)
def nan : Float := Float.ofBits 0x7FF8000000000000

/-- `num / den` in units of `2 ^ exponent`, as a quotient again. -/
def rescale (num den : Nat) (exponent : Int) : Nat × Nat :=
  if 0 ≤ exponent then (num, den * Nat.pow 2 exponent.toNat) else (num * Nat.pow 2 (-exponent).toNat, den)

/-- The double nearest to `num / den`; none when it is beyond the largest one. -/
def nearest? (negative : Bool) (num den : Nat) : Option Float :=
  if num = 0 then some (zero negative) else
    let guess : Int := (num.log2 : Int) - den.log2 - 53
    let first := max guess (-1074)
    let (n, d) := rescale num den first
    let exponent := if Nat.pow 2 53 ≤ n / d then first + 1 else first
    let (n, d) := rescale num den exponent
    let q := roundQuotient n d
    let bits := if q < Nat.pow 2 52 then q else (exponent + 1074).toNat * Nat.pow 2 52 + q
    if 2047 * Nat.pow 2 52 ≤ bits then none else some (withSign negative bits)

/-- The double nearest to `num / den`, which is an infinity beyond the largest one. -/
def nearest (negative : Bool) (num den : Nat) : Float :=
  (nearest? negative num den).getD (infinity negative)

/-- The double nearest to an integer; none when the integer is too large. -/
def ofInt? (n : Int) : Option Float :=
  nearest? (n < 0) n.natAbs 1

/-- The double nearest to `mantissa * 2 ^ exponent`. -/
def ofScaled (negative : Bool) (mantissa : Nat) (exponent : Int) : Float :=
  if 0 ≤ exponent then nearest negative (mantissa * Nat.pow 2 exponent.toNat) 1
  else nearest negative mantissa (Nat.pow 2 (-exponent).toNat)

/-- The integer part, toward zero. -/
def truncate (mantissa exponent : Int) : Int :=
  if 0 ≤ exponent then mantissa * Nat.pow 2 exponent.toNat
  else Int.tdiv mantissa (Nat.pow 2 (-exponent).toNat)

def floor (mantissa exponent : Int) : Int :=
  if 0 ≤ exponent then mantissa * Nat.pow 2 exponent.toNat
  else Int.fdiv mantissa (Nat.pow 2 (-exponent).toNat)

/-- The nearest integer, a tie to the even one. -/
def roundToInt (mantissa exponent : Int) : Int :=
  if 0 ≤ exponent then mantissa * Nat.pow 2 exponent.toNat
  else
    let q : Int := roundQuotient mantissa.natAbs (Nat.pow 2 (-exponent).toNat)
    if mantissa < 0 then -q else q

/-- A double that stands for a whole number. -/
def isWhole (x : Float) : Bool :=
  match reading x with
  | .finite m e => 0 ≤ e || m % Nat.pow 2 (-e).toNat == 0
  | _ => false

end Binary64

end ApiJourney
