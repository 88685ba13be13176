-- SUMMARY: What plain scalars stand for.
import ApiJourney.Fault
import ApiJourney.Number.Numeral
import ApiJourney.Text.Digit
import ApiJourney.Value.Basic

/-!
# Plain scalars as values

A plain scalar is a null, a truth value, an integer or a decimal number if it is written
as one, and a text otherwise. Underscores may stand among the digits of a number. Numbers
of which nothing else is left cannot be used.
-/

namespace ApiJourney.Yaml.Scalar

open ApiJourney.Text

/-! ## Words -/

def words : List (String × Value) :=
  [("", .null), ("~", .null), ("null", .null), ("Null", .null), ("NULL", .null),
   ("true", .bool true), ("True", .bool true), ("TRUE", .bool true),
   ("false", .bool false), ("False", .bool false), ("FALSE", .bool false)]

/-- The key under which other mappings are merged. -/
def mergeKey : String := "<<"

/-- The word that stands for a default value, which nothing can be made of. -/
def defaultWord : String := "="

/-! ## Integers -/

def isDigitOf (base : Nat) (c : Char) : Bool :=
  c == '_' || (Numeral.digitValue? base c).isSome

/-- A base marker and the digits behind it. -/
def marked? : List Char → Option (Nat × List Char)
  | '0' :: 'b' :: ds => some (2, ds)
  | '0' :: 'o' :: ds => some (8, ds)
  | '0' :: 'x' :: ds => some (16, ds)
  | _ => none

/-- Whether a text is written as an integer. -/
def isInteger (cs : List Char) : Bool :=
  let body := (Numeral.splitSign cs).2
  let (base, digits) := (marked? body).getD (10, body)
  !digits.isEmpty && digits.all (isDigitOf base) && cs.head? != some '_'

def withoutUnderscores (cs : List Char) : List Char :=
  cs.filter (· != '_')

/-- The integer that a text is written as. -/
def integer (cs : List Char) : Except Fault Value :=
  let (negative, body) := Numeral.splitSign (withoutUnderscores cs)
  let (base, digits) := (marked? body).getD (10, body)
  match Numeral.unsigned? base digits with
  | some n => .ok (.int (if negative then -(n : Int) else n))
  | none => .error .badValue

/-! ## Decimal numbers -/

/-- An exponent to the end; `signed` tells whether its sign must be written. -/
def isExponent (signed : Bool) : List Char → Bool
  | e :: rest =>
    let digits := (Numeral.splitSign rest).2
    (e == 'e' || e == 'E') && !digits.isEmpty && digits.all isAsciiDigit
      && (!signed || digits.length < rest.length)
  | [] => false

/-- What may follow the digits of a number behind its point. -/
def endsDecimal (signed : Bool) (cs : List Char) : Bool :=
  cs.isEmpty || isExponent signed cs

/-- Whether digits with a point or an exponent are a number. -/
def isDecimalBody (body : List Char) : Bool :=
  let isPlace (c : Char) : Bool := isDigitOf 10 c
  match body with
  | '.' :: rest =>
    (rest.head?.map isPlace).getD false && endsDecimal true (rest.dropWhile isPlace)
  | c :: rest =>
    isAsciiDigit c && match rest.dropWhile isPlace with
      | '.' :: fraction => endsDecimal false (fraction.dropWhile isPlace)
      | rest => isExponent false rest
  | [] => false

def infinities : List (List Char) := [".inf".toList, ".Inf".toList, ".INF".toList]

def nans : List (List Char) := [".nan".toList, ".NaN".toList, ".NAN".toList]

/-- The double that a text is written as, if it is written as one. -/
def decimal? (cs : List Char) : Option (Except Fault Value) :=
  let (negative, body) := Numeral.splitSign cs
  if infinities.contains body then some (.ok (.float (Binary64.infinity negative)))
  else if nans.contains cs then some (.ok (.float Binary64.nan))
  else if !isDecimalBody body then none
  else match Numeral.decimal? (withoutUnderscores cs) with
    | some x => some (.ok (.float x))
    | none => some (.error .badValue)

/-! ## Values -/

/-- The value of a plain scalar. -/
def value (s : String) : Except Fault Value :=
  match words.lookup s with
  | some v => .ok v
  | none =>
    if s == defaultWord || s == mergeKey then .error .malformed
    else
      let cs := s.toList
      match decimal? cs with
      | some v => v
      | none => if isInteger cs then integer cs else .ok (.text s)

end ApiJourney.Yaml.Scalar
