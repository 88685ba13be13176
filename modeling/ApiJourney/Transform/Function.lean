-- SUMMARY: The functions that transforms may call.
import ApiJourney.Sorting
import ApiJourney.Text.Encoding
import ApiJourney.Transform.Format
import ApiJourney.Transform.Method

/-!
# Functions

A fixed set of pure functions: sizes, conversions, rounding, extremes, sorting
and case. Calls with arguments that a function does not take are faults.
-/

namespace ApiJourney.Transform

open ApiJourney.Text

/-- A positional argument, or the one given by name; not both. -/
def argOr (positional : Option Located) (name : String) (kws : Keywords Located) :
    Except Fault (Option Located) :=
  match positional, kws.lookup name with
  | some _, some _ => .error .wrongType
  | some l, none => .ok (some l)
  | none, l => .ok l

def onlyKeywords (names : List String) (kws : Keywords Located) : Except Fault Unit :=
  if kws.all fun (k, _) => names.contains k then .ok () else .error .wrongType

/-! ## Sizes and conversions -/

def lengthOf : Value → Except Fault Value
  | .text s => .ok (.int s.length)
  | .bytes bs => .ok (.int bs.length)
  | .list xs => .ok (.int xs.length)
  | .tuple xs => .ok (.int xs.length)
  | .dict es => .ok (.int es.length)
  | _ => .error .wrongType

/-- A name given as an argument: without null characters, and one that can be written. -/
def nameArg (l : Option Located) (default : String) : Except Fault String :=
  match l.map Located.value with
  | none => .ok default
  | some (.text s) =>
    if s.toList.contains (Char.ofNat 0) then .error .badValue
    else if isEncodable s then .ok s
    else .error .unencodable
  | some _ => .error .wrongType

/-- A byte string read in an encoding; an empty one is read in any. -/
def decodeBytes (bs : List UInt8) (encoding way : String) : Except Fault Value :=
  if bs.isEmpty then .ok (.text "")
  else match Encoding.named? encoding with
    | some e => (e.decode way bs).map textValue
    | none => .error .unknownName

/-- The text of a value; digits are written anew. -/
def textOf (l : Located) : Except Fault Located :=
  match l.value with
  | .text _ => .ok l
  | .bool b => (shownText (.bool b)).map fun cs => ⟨textValue cs, .word⟩
  | .int n => (shownText (.int n)).map fun cs => .written (textValue cs)
  | v => (shownText v).map fun cs => .fresh (textValue cs)

def toText (args : List Located) (kws : Keywords Located) : Except Fault Located := do
  onlyKeywords ["object", "encoding", "errors"] kws
  if 3 < args.length then .error .wrongType
  else
    let object ← argOr args[0]? "object" kws
    let encoding ← argOr args[1]? "encoding" kws
    let errors ← argOr args[2]? "errors" kws
    let name ← nameArg encoding "utf-8"
    let way ← nameArg errors "strict"
    match object with
    | none => .ok (.fresh (.text ""))
    | some l =>
      if encoding.isNone && errors.isNone then textOf l
      else match l.value with
        | .bytes bs => (decodeBytes bs name way).map .fresh
        | _ => .error .wrongType

/-- The integer that a value stands for. -/
def integerValue (l : Located) : Except Fault Located :=
  match l.value with
  | .int _ => .ok l
  | .text s => integerOf s.toList
  | .bytes bs => integerOf (bs.map charOfByte)
  | v => (truncatedInt v).map fun n => .fresh (.int n)
where
  integerOf (cs : List Char) : Except Fault Located :=
    match Numeral.integer? 10 cs with
    | some n => .ok (.fresh (.int n))
    | none => .error .badValue

def numeralArg : Value → Except Fault (List Char)
  | .text s => .ok s.toList
  | .bytes bs => .ok (bs.map charOfByte)
  | _ => .error .wrongType

/-- The integer that a numeral of a base stands for. -/
def integerInBase (v base : Value) : Except Fault Located := do
  match base.int? with
  | none => .error .wrongType
  | some b =>
    if b ≠ 0 && (b < 2 || 36 < b) then .error .badValue
    else
      let cs ← numeralArg v
      match Numeral.integer? b.toNat cs with
      | some n => .ok (.fresh (.int n))
      | none => .error .badValue

def toInteger (args : List Located) (kws : Keywords Located) : Except Fault Located := do
  onlyKeywords ["base"] kws
  match args, kws.lookup "base" with
  | [], none => .ok (.fresh (.int 0))
  | [l], none => integerValue l
  | [l], some base => integerInBase l.value base.value
  | [l, base], none => integerInBase l.value base.value
  | _, _ => .error .wrongType

/-- The double that a value stands for. -/
def floatValue (l : Located) : Except Fault Located :=
  match l.value with
  | .float _ => .ok l
  | .text s => decimalOf s.toList
  | .bytes bs => decimalOf (bs.map charOfByte)
  | v => (floatOf v).map fun x => .fresh (.float x)
where
  decimalOf (cs : List Char) : Except Fault Located :=
    match Numeral.decimal? cs with
    | some x => .ok (.fresh (.float x))
    | none => .error .badValue

def toFloat (args : List Located) (kws : Keywords Located) : Except Fault Located := do
  onlyKeywords [] kws
  match args with
  | [] => .ok (.fresh (.float (Binary64.zero false)))
  | [l] => floatValue l
  | _ => .error .wrongType

def toBool (args : List Located) (kws : Keywords Located) : Except Fault Located := do
  onlyKeywords [] kws
  match args with
  | [] => .ok (.fresh (.bool false))
  | [l] => .ok (.fresh (.bool l.value.truthy))
  | _ => .error .wrongType

/-! ## Rounding -/

/-- A double rounded to `places` decimal places, a tie to the even digit. -/
def roundFloat (x : Float) (places : Int) : Except Fault Value :=
  match Binary64.reading x with
  | .finite m e =>
    if 323 < places then .ok (.float x)
    else if places < -308 then .ok (.float (Binary64.zero (Binary64.isNegative x)))
    else
      let digits := Decimal.atPlaces m.natAbs e places
      let y := Numeral.scaleTen (Binary64.isNegative x) digits (-places)
      match Binary64.reading y with
      | .infinite _ => .error .overflow
      | _ => .ok (.float y)
  | _ => .ok (.float x)

/-- An integer rounded to a multiple of a power of ten, a tie to the even one. -/
def roundInt (n places : Int) : Int :=
  if 0 ≤ places then n
  else if ((Nat.toDigits 10 n.natAbs).length : Int) + 1 < -places then 0
  else
    let unit := Nat.pow 10 (-places).toNat
    let q : Int := Binary64.roundQuotient n.natAbs unit * unit
    if n < 0 then -q else q

/-- An integer as the value that it is; a truth value becomes one. -/
def integerAsIs (l : Located) (n : Int) : Located :=
  match l.value with
  | .int _ => l
  | _ => .fresh (.int n)

/-- A number rounded to whole ones, or to decimal places. -/
def roundValue (l : Located) (places : Value) : Except Fault Located :=
  match l.value, places with
  | .float x, .null =>
    match Binary64.reading x with
    | .finite m e => .ok (.fresh (.int (Binary64.roundToInt m e)))
    | .infinite _ => .error .overflow
    | .nan => .error .badValue
  | .float x, places =>
    match places.int? with
    | some p => (roundFloat x p).map .fresh
    | none => .error .wrongType
  | v, places =>
    match v.int?, places with
    | none, _ => .error .wrongType
    | some n, .null => .ok (integerAsIs l n)
    | some n, places =>
      match places.int? with
      | some p => .ok (if 0 ≤ p then integerAsIs l n else .fresh (.int (roundInt n p)))
      | none => .error .wrongType

def rounded (args : List Located) (kws : Keywords Located) : Except Fault Located := do
  onlyKeywords ["number", "ndigits"] kws
  if 2 < args.length then .error .wrongType
  else
    let number ← argOr args[0]? "number" kws
    let places ← argOr args[1]? "ndigits" kws
    match number with
    | some l => roundValue l ((places.map (·.value)).getD .null)
    | none => .error .wrongType

def absolute (args : List Located) (kws : Keywords Located) : Except Fault Located := do
  onlyKeywords [] kws
  match args with
  | [l] =>
    match number? l.value with
    | some (.int n) => .ok (if n < 0 then .fresh (.int (-n)) else integerAsIs l n)
    | some (.float x) => .ok (.fresh (.float (if Binary64.isNegative x then -x else x)))
    | some (.complex re im) => (complexAbs re im).map .fresh
    | none => .error .wrongType
  | _ => .error .wrongType

/-! ## Extremes and sorting -/

/-- The first item that no later one surpasses. -/
def extreme (op : OrderOp) (best : Located) : List Located → Except Fault Located
  | [] => .ok best
  | l :: rest => do
    let better ← Located.ordered op l best
    extreme op (if better then l else best) rest

def isGiven (l : Option Located) : Bool :=
  (l.map fun l => !l.value.isNull).getD false

/-- The arguments, or the items of a single one. -/
def choices (args : List Located) (kws : Keywords Located) : Except Fault (List Located) :=
  match args with
  | [] => .error .wrongType
  | [l] => l.iterate
  | ls => if (kws.lookup "default").isSome then .error .wrongType else .ok ls

/-- The least or the greatest of the arguments, or of the items of a single one. -/
def extremeOf (op : OrderOp) (args : List Located) (kws : Keywords Located) :
    Except Fault Located := do
  onlyKeywords ["key", "default"] kws
  match ← choices args kws with
  | [] =>
    match kws.lookup "default" with
    | some l => .ok l
    | none => .error .badValue
  | l :: rest => if isGiven (kws.lookup "key") then .error .wrongType else extreme op l rest

/-- Whether the keywords ask for the order backwards. -/
def isBackwards (kws : Keywords Located) : Except Fault Bool :=
  match (kws.lookup "reverse").map (·.value) with
  | none => .ok false
  | some r =>
    match r.int? with
    | some n => if Nat.pow 2 31 ≤ n.natAbs then .error .overflow else .ok (n != 0)
    | none => .error .wrongType

/-- The items of a value in order; equal ones keep theirs, also backwards. -/
def sortedItems (args : List Located) (kws : Keywords Located) : Except Fault Located := do
  onlyKeywords ["key", "reverse"] kws
  match args with
  | [l] =>
    let items ← l.iterate
    let backwards ← isBackwards kws
    if isGiven (kws.lookup "key") && !items.isEmpty then .error .wrongType
    else if backwards then
      let ls ← sorted (Located.ordered .lt) items.reverse
      .ok (.list ls.reverse)
    else (sorted (Located.ordered .lt) items).map .list
  | _ => .error .wrongType

/-! ## Case -/

def caseOf (f : List Char → List Char) (args : List Located) (kws : Keywords Located) :
    Except Fault Located := do
  onlyKeywords ["s"] kws
  if 1 < args.length then .error .wrongType
  else
    let l ← argOr args[0]? "s" kws
    match l with
    | some l => (shownText l.value).map fun cs => .written (textValue (f cs))
    | none => .error .wrongType

def sized (args : List Located) (kws : Keywords Located) : Except Fault Located := do
  onlyKeywords [] kws
  match args with
  | [l] => (lengthOf l.value).map .fresh
  | _ => .error .wrongType

/-- The functions by name. -/
def functions : List (String × (List Located → Keywords Located → Except Fault Located)) :=
  [("len", sized), ("str", toText), ("int", toInteger), ("float", toFloat), ("bool", toBool),
   ("round", rounded), ("abs", absolute), ("min", extremeOf .lt), ("max", extremeOf .gt),
   ("sorted", sortedItems), ("lower", caseOf lower), ("upper", caseOf upper)]

def callFunction (name : String) (args : List Located) (kws : Keywords Located) :
    Except Error Located :=
  match functions.lookup name with
  | some f => (f args kws).mapError .failed
  | none => .error (.function name)

end ApiJourney.Transform
