-- SUMMARY: Reading integers and decimal numbers from texts.
import ApiJourney.Number.Binary64
import ApiJourney.Text.Blank
import ApiJourney.Text.Digit

/-!
# Numerals

An integer numeral is an optional sign and digits of its base, where single
underscores may stand between digits. A decimal numeral adds a fraction and an
exponent, or names an infinity or a NaN. Blanks around a numeral are skipped,
and digits of any script count.
-/

namespace ApiJourney.Numeral

open ApiJourney.Text

/-- The most decimal digits that an integer numeral may have. -/
def maxDigits : Nat := 4300

/-! ## Preparation -/

def isAsciiBlank (c : Char) : Bool :=
  c == ' ' || (9 ≤ c.toNat && c.toNat ≤ 13)

/-- Blanks above ASCII become spaces and digits ASCII digits. -/
def normalized (cs : List Char) : List Char :=
  cs.map fun c =>
    if c.toNat < 127 then c
    else if isBlank c then ' '
    else match decimalValue? c with
      | some d => Char.ofNat (48 + d)
      | none => '?'

def stripped (cs : List Char) : List Char :=
  dropEndWhile isAsciiBlank (cs.dropWhile isAsciiBlank)

def splitSign : List Char → Bool × List Char
  | '-' :: rest => (true, rest)
  | '+' :: rest => (false, rest)
  | cs => (false, cs)

/-! ## Integers -/

/-- The value of a digit in a base up to 36. -/
def digitValue? (base : Nat) (c : Char) : Option Nat :=
  let v :=
    if '0' ≤ c && c ≤ '9' then some (c.toNat - 48)
    else if 'a' ≤ c && c ≤ 'z' then some (c.toNat - 87)
    else if 'A' ≤ c && c ≤ 'Z' then some (c.toNat - 55)
    else none
  v.filter (· < base)

/-- Digits of `base`, an underscore allowed between two of them; `afterDigit` tells
    whether one stands before. Gives the digits' values. -/
def digits? (base : Nat) (afterDigit : Bool) : List Char → Option (List Nat)
  | [] => if afterDigit then some [] else none
  | '_' :: rest => if afterDigit then digits? base false rest else none
  | c :: rest =>
    match digitValue? base c with
    | some d => (digits? base true rest).map (d :: ·)
    | none => none

def ofDigits (base : Nat) (ds : List Nat) : Nat :=
  ds.foldl (fun acc d => acc * base + d) 0

def isPowerOfTwo (base : Nat) : Bool :=
  base == 2 || base == 4 || base == 8 || base == 16 || base == 32

/-- The base that a marker such as `0x` stands for. -/
def marker? : List Char → Option Nat
  | '0' :: c :: _ =>
    if c == 'x' || c == 'X' then some 16
    else if c == 'o' || c == 'O' then some 8
    else if c == 'b' || c == 'B' then some 2
    else none
  | _ => none

/-- Digits after the sign. Base 0 takes the base from the marker, and without one
    refuses leading zeros. -/
def unsigned? (base : Nat) (cs : List Char) : Option Nat := do
  let marked := marker? cs
  let actual := if base = 0 then marked.getD 10 else base
  let body :=
    if marked = some actual then
      match cs.drop 2 with
      | '_' :: rest => rest
      | rest => rest
    else cs
  let ds ← digits? actual false body
  if !isPowerOfTwo actual && maxDigits < ds.length then none
  else
    let n := ofDigits actual ds
    if base = 0 && marked.isNone && cs.head? == some '0' && n ≠ 0 then none else some n

/-- An integer numeral; `base` is 0 or 2 to 36. -/
def integer? (base : Nat) (cs : List Char) : Option Int := do
  let (negative, body) := splitSign (stripped (normalized cs))
  let n ← unsigned? base body
  some (if negative then -(n : Int) else n)

/-! ## Decimal numbers -/

/-- Underscores between digits are dropped; any other underscore is refused. -/
def withoutUnderscores? (before : Option Char) : List Char → Option (List Char)
  | [] => if before == some '_' then none else some []
  | c :: rest =>
    if c == '_' then
      if (before.map isAsciiDigit).getD false then withoutUnderscores? (some c) rest else none
    else if before == some '_' && !isAsciiDigit c then none
    else (withoutUnderscores? (some c) rest).map (c :: ·)

/-- `mantissa * 10 ^ exponent` as a double. Exponents far out of range are not computed. -/
def scaleTen (negative : Bool) (mantissa : Nat) (exponent : Int) : Float :=
  if mantissa = 0 then Binary64.zero negative
  else
    let size := (Nat.toDigits 10 mantissa).length + exponent
    if 400 < size then Binary64.infinity negative
    else if size < -400 then Binary64.zero negative
    else if 0 ≤ exponent then Binary64.nearest negative (mantissa * Nat.pow 10 exponent.toNat) 1
    else Binary64.nearest negative mantissa (Nat.pow 10 (-exponent).toNat)

/-- Whole digits, fraction digits and the exponent of a decimal number, and what follows it. -/
def decimalParts (cs : List Char) : Option (List Char × List Char × Int × List Char) :=
  let whole := cs.takeWhile isAsciiDigit
  let rest := cs.dropWhile isAsciiDigit
  let (fraction, rest) := match rest with
    | '.' :: r => (r.takeWhile isAsciiDigit, r.dropWhile isAsciiDigit)
    | r => ([], r)
  if whole.isEmpty && fraction.isEmpty then none
  else
    let plain := some (whole, fraction, 0, rest)
    match rest with
    | e :: r =>
      if e == 'e' || e == 'E' then
        let (negative, r) := splitSign r
        let digits := r.takeWhile isAsciiDigit
        if digits.isEmpty then plain
        else
          let n : Int := ofDigits 10 (digits.map fun c => c.toNat - 48)
          some (whole, fraction, if negative then -n else n, r.dropWhile isAsciiDigit)
      else plain
    | [] => plain

/-- The double that whole digits, fraction digits and an exponent stand for. -/
def ofParts (negative : Bool) (whole fraction : List Char) (exponent : Int) : Float :=
  let mantissa := ofDigits 10 ((whole ++ fraction).map fun c => c.toNat - 48)
  scaleTen negative mantissa (exponent - fraction.length)

def asciiLower (cs : List Char) : List Char :=
  cs.map fun c => if 'A' ≤ c && c ≤ 'Z' then Char.ofNat (c.toNat + 32) else c

/-- A decimal numeral, an infinity or a NaN. -/
def decimal? (cs : List Char) : Option Float := do
  let cs ← withoutUnderscores? none (stripped (normalized cs))
  let (negative, body) := splitSign cs
  let word := asciiLower body
  if word == "inf".toList || word == "infinity".toList then some (Binary64.infinity negative)
  else if word == "nan".toList then some Binary64.nan
  else
    match decimalParts body with
    | some (whole, fraction, exponent, []) => some (ofParts negative whole fraction exponent)
    | _ => none

end ApiJourney.Numeral
