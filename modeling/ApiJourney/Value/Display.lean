-- SUMMARY: The texts that stand for values in messages and templates.
import ApiJourney.Value.Basic
import ApiJourney.Number.Decimal
import ApiJourney.Number.Numeral
import ApiJourney.Text.Quoted

/-!
# Text of values

A value has a written form, in which texts are quoted, and a shown form, in
which a text stands for itself. Integers of more than 4300 digits have neither.
Values of further classes bring both forms with them.
-/

namespace ApiJourney.Value

/-- The digits of an integer, unless there are too many. -/
def intText? (n : Int) : Option String :=
  if Nat.pow 10 Numeral.maxDigits ≤ n.natAbs then none else some (toString n)

/-- Both parts of a complex number; a real part of plain zero is left out. -/
def complexText (re im : Float) : List Char :=
  let imag := Decimal.bare.text im
  if (Binary64.reading re).isZero && !Binary64.isNegative re then imag ++ ['j']
  else
    let sign := if imag.head? == some '-' then [] else ['+']
    '(' :: Decimal.bare.text re ++ sign ++ imag ++ ['j', ')']

def commaSeparated (items : List String) : String :=
  String.intercalate ", " items

mutual

/-- The written form of a value. -/
def written? : Value → Option String
  | .null => some "None"
  | .bool b => some (if b then "True" else "False")
  | .int n => intText? n
  | .float x => some (Decimal.text x)
  | .text s => some (String.ofList (Text.quoted s.toList))
  | .bytes bs => some (String.ofList (Text.quotedBytes bs))
  | .list xs => (writtenItems? xs).map fun ts => "[" ++ commaSeparated ts ++ "]"
  | .tuple xs => (writtenItems? xs).map fun ts =>
    match ts with
    | [t] => "(" ++ t ++ ",)"
    | ts => "(" ++ commaSeparated ts ++ ")"
  | .dict es => (writtenEntries? es).map fun ts => "\x7b" ++ commaSeparated ts ++ "\x7d"
  | .complex re im => some (String.ofList (complexText re im))
  | .ellipsis => some "Ellipsis"
  | .foreign x => x.written

def writtenItems? : List Value → Option (List String)
  | [] => some []
  | x :: rest => do
    let t ← written? x
    let ts ← writtenItems? rest
    some (t :: ts)

def writtenEntries? : List (Value × Value) → Option (List String)
  | [] => some []
  | (k, v) :: rest => do
    let t ← written? k
    let u ← written? v
    let ts ← writtenEntries? rest
    some ((t ++ ": " ++ u) :: ts)

end

/-- The shown form of a value. -/
def shown? : Value → Option String
  | .text s => some s
  | .foreign x => x.shown
  | v => written? v

end ApiJourney.Value
