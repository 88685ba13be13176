-- SUMMARY: Decimal digits of doubles: the shortest that read back, and a fixed number of places.
import ApiJourney.Number.Binary64

/-!
# Decimal digits of doubles

The shortest digits of a double are the fewest that read back as it, the
nearest of those, ties to the even last digit. A fixed number of places rounds
the exact value, ties to even. How digits are laid out is a `Layout`.
-/

namespace ApiJourney.Decimal

/-- The number of decimal digits of a positive number. -/
def width (n : Nat) : Nat :=
  (Nat.toDigits 10 n).length

/-- `num / den` in units of `10 ^ exponent`, as a quotient again. -/
def rescale (num den : Nat) (exponent : Int) : Nat × Nat :=
  if 0 ≤ exponent then (num, den * Nat.pow 10 exponent.toNat) else (num * Nat.pow 10 (-exponent).toNat, den)

/-- `mantissa * 2 ^ exponent` as a quotient. -/
def quotient (mantissa : Nat) (exponent : Int) : Nat × Nat :=
  if 0 ≤ exponent then (mantissa * Nat.pow 2 exponent.toNat, 1) else (mantissa, Nat.pow 2 (-exponent).toNat)

/-- The exponent of the leading decimal digit of a positive quotient. -/
def leading (num den : Nat) : Int :=
  let guess : Int := Int.fdiv (((num.log2 : Int) - den.log2 - 1) * 1233) 4096 - 1
  let atLeast (k : Int) : Bool := let (n, d) := rescale num den k; d ≤ n
  if atLeast (guess + 2) then guess + 2
  else if atLeast (guess + 1) then guess + 1
  else if atLeast guess then guess
  else guess - 1

/-- The numbers that round to a double lie between its two neighbours' midpoints;
    in quarters of a unit of the mantissa these are `low` and `high`. -/
structure Interval where
  low : Nat
  value : Nat
  high : Nat
  /-- Whether the ends belong to the interval. -/
  closed : Bool

def intervalOf (mantissa : Nat) (exponent : Int) : Interval :=
  let atPower := mantissa == Nat.pow 2 52 && -1074 < exponent
  { low := if atPower then 4 * mantissa - 1 else 4 * mantissa - 2
    value := 4 * mantissa
    high := 4 * mantissa + 2
    closed := mantissa % 2 == 0 }

/-- Whether `digits * 10 ^ place` rounds to the double whose interval is given in
    units of `2 ^ (exponent - 2)`. -/
def Interval.holds (i : Interval) (exponent : Int) (digits : Nat) (place : Int) : Bool :=
  let (n, d) := if 0 ≤ place then (digits * Nat.pow 10 place.toNat, 1) else (digits, Nat.pow 10 (-place).toNat)
  let (n, d) :=
    if 2 ≤ exponent then (n, d * Nat.pow 2 (exponent - 2).toNat) else (n * Nat.pow 2 (2 - exponent).toNat, d)
  if i.closed then i.low * d ≤ n && n ≤ i.high * d else i.low * d < n && n < i.high * d

/-- The digits of the two neighbours on the grid of `10 ^ place`, the better of
    those that read back. -/
def onGrid? (mantissa : Nat) (exponent : Int) (place : Int) : Option Nat :=
  let (n, d) := quotient mantissa exponent
  let (n, d) := rescale n d place
  let below := n / d
  let i := intervalOf mantissa exponent
  match i.holds exponent below place, i.holds exponent (below + 1) place with
  | true, true => some (Binary64.roundQuotient n d)
  | true, false => some below
  | false, true => some (below + 1)
  | false, false => none

/-- The first grid, from the coarsest, that holds a number that reads back. -/
def shortestFrom (mantissa : Nat) (exponent : Int) (place : Int) : Nat → Nat × Int
  | 0 =>
    let (n, d) := quotient mantissa exponent
    let (n, d) := rescale n d place
    (Binary64.roundQuotient n d, place)
  | more + 1 =>
    match onGrid? mantissa exponent place with
    | some digits => if digits = 0 then shortestFrom mantissa exponent (place - 1) more else (digits, place)
    | none => shortestFrom mantissa exponent (place - 1) more

/-- The digits `d` and the place `p` with `d * 10 ^ p` the shortest decimal that
    reads back as `mantissa * 2 ^ exponent`. -/
def shortest (mantissa : Nat) (exponent : Int) : Nat × Int :=
  let (n, d) := quotient mantissa exponent
  shortestFrom mantissa exponent (leading n d) 17

/-- `mantissa * 2 ^ exponent` in units of `10 ^ (-places)`, rounded. -/
def atPlaces (mantissa : Nat) (exponent : Int) (places : Int) : Nat :=
  let (n, d) := quotient mantissa exponent
  let (n, d) := rescale n d (-places)
  Binary64.roundQuotient n d

/-- `count` significant digits and the exponent of the first of them. -/
def significant (mantissa : Nat) (exponent : Int) (count : Nat) : Nat × Int :=
  let (n, d) := quotient mantissa exponent
  let first := leading n d
  let digits := atPlaces mantissa exponent ((count : Int) - 1 - first)
  if Nat.pow 10 count ≤ digits then (digits / 10, first + 1) else (digits, first)

/-! ## Layout -/

def digitsText (n : Nat) : List Char :=
  Nat.toDigits 10 n

def zeros (n : Nat) : List Char :=
  List.replicate n '0'

/-- Digits with a point `point` places behind the first digit's left edge. -/
def withPoint (digits : List Char) (point : Int) : List Char × List Char :=
  if point ≤ 0 then (['0'], zeros (-point).toNat ++ digits)
  else
    let whole := point.toNat
    if digits.length ≤ whole then (digits ++ zeros (whole - digits.length), [])
    else (digits.take whole, digits.drop whole)

/-- An exponent with its sign and at least two digits. -/
def exponentText (e : Int) : List Char :=
  let digits := digitsText e.natAbs
  (if e < 0 then '-' else '+') :: (if digits.length < 2 then '0' :: digits else digits)

def dropTrailingZeros (digits : List Char) : List Char :=
  (digits.reverse.dropWhile (· == '0')).reverse

/-- How the digits of a number are written. -/
structure Layout where
  /-- Exponents below this one are written out. -/
  smallest : Int
  /-- Exponents from this one on are written out. -/
  largest : Int
  /-- A whole number in positional notation keeps one decimal place. -/
  keepsPoint : Bool

/-- Positional from 0.0001 up to below 10^16, with at least one decimal place. -/
def plain : Layout := ⟨-4, 16, true⟩

/-- As `plain`, but a whole number has no decimal point. -/
def bare : Layout := ⟨-4, 16, false⟩

def Layout.write (l : Layout) (digits : List Char) (exponent : Int) : List Char :=
  if exponent < l.smallest || l.largest ≤ exponent then
    let mantissa := match digits with
      | [] => []
      | d :: [] => [d]
      | d :: rest => d :: '.' :: rest
    mantissa ++ 'e' :: exponentText exponent
  else
    let (whole, rest) := withPoint digits (exponent + 1)
    if rest.isEmpty then (if l.keepsPoint then whole ++ ['.', '0'] else whole)
    else whole ++ '.' :: rest

def writeMagnitude (l : Layout) (mantissa : Nat) (exponent : Int) : List Char :=
  if mantissa = 0 then l.write ['0'] 0
  else
    let (digits, place) := shortest mantissa exponent
    let chars := digitsText digits
    l.write (dropTrailingZeros chars) (place + chars.length - 1)

/-- The shortest text of a double. -/
def Layout.text (l : Layout) (x : Float) : List Char :=
  match Binary64.reading x with
  | .nan => "nan".toList
  | .infinite negative => if negative then "-inf".toList else "inf".toList
  | .finite m e =>
    let body := writeMagnitude l m.natAbs e
    if Binary64.isNegative x then '-' :: body else body

def text (x : Float) : String :=
  String.ofList (plain.text x)

/-! ## Fixed places -/

/-- Digits with a decimal point before the last `places` ones; `marked` keeps the point of
    a whole number. -/
def fixedText (marked : Bool) (places digits : Nat) : List Char :=
  let ds := Nat.toDigits 10 digits
  let ds := List.replicate (places + 1 - ds.length) '0' ++ ds
  let whole := ds.take (ds.length - places)
  let fraction := ds.drop (ds.length - places)
  if places = 0 then (if marked then whole ++ ['.'] else whole) else whole ++ '.' :: fraction

/-- A double rounded to a number of places. -/
def fixed (places : Nat) (x : Float) : String :=
  match Binary64.reading x with
  | .nan => "nan"
  | .infinite negative => if negative then "-inf" else "inf"
  | .finite m e =>
    let body := fixedText false places (atPlaces m.natAbs e places)
    String.ofList (if Binary64.isNegative x then '-' :: body else body)

end ApiJourney.Decimal
