-- SUMMARY: Reading texts, numbers and truth values from documents.
import ApiJourney.Schema.Verdict
import ApiJourney.Number.Numeral
import ApiJourney.Text.Utf8
import ApiJourney.Value.Equality

/-!
# Scalars

A scalar may be written in more than one way: an integer as a text, as a whole
double or as a truth value, a truth value as a word or as 0 and 1. The strict
readings take numbers only.
-/

namespace ApiJourney.Schema

open ApiJourney.Text

/-! ## Texts -/

def text : Value → Verdict String
  | .text s => .accepted s
  | .bytes bs =>
    match Utf8.decode? bs with
    | some cs => .accepted (String.ofList cs)
    | none => .refuse .notUnicode
  | _ => .refuse .notText

def nonEmptyText (v : Value) : Verdict String :=
  (text v).andThen fun s => if s.isEmpty then .refuse .shortText else .accepted s

/-! ## Numerals -/

/-- Blanks around a numeral; the separators of files and records are none. -/
def isNumeralBlank (c : Char) : Bool :=
  isBlank c && !(28 ≤ c.toNat && c.toNat ≤ 31)

def trimNumeral (cs : List Char) : List Char :=
  dropEndWhile isNumeralBlank (cs.dropWhile isNumeralBlank)

def hasDoubleUnderscore : List Char → Bool
  | '_' :: '_' :: _ => true
  | _ :: rest => hasDoubleUnderscore rest
  | [] => false

/-- Removes single underscores between other characters. -/
def joinGroups? (cs : List Char) : Option (List Char) :=
  if cs.head? == some '_' || cs.getLast? == some '_' || hasDoubleUnderscore cs then none
  else some (cs.filter (· != '_'))

/-- Drops leading zeros of a number but for the last one before its end or its point. -/
def dropZeros (before : Char) : List Char → Option (List Char)
  | [] => some [before]
  | c :: rest =>
    if c == '0' || c == '_' then dropZeros c rest
    else if '1' ≤ c && c ≤ '9' then some (c :: rest)
    else if c == '.' then some (before :: c :: rest)
    else none

def withoutLeadingZeros? : List Char → Option (List Char)
  | [] => none
  | c :: rest =>
    if c == '0' then dropZeros c rest
    else if ('1' ≤ c && c ≤ '9') || c == '-' then some (c :: rest)
    else none

/-- Drops a fraction of zeros. -/
def withoutZeroFraction (cs : List Char) : List Char :=
  let whole := cs.takeWhile (· != '.')
  let fraction := (cs.dropWhile (· != '.')).drop 1
  if fraction.all (· == '0') then whole else cs

def signedDigits? (cs : List Char) : Option Int :=
  let (negative, ds) := match cs with
    | '-' :: rest => (true, rest)
    | cs => (false, cs)
  if ds.isEmpty || !ds.all isAsciiDigit then none
  else
    let n : Int := Numeral.ofDigits 10 (ds.map fun c => c.toNat - 48)
    some (if negative then -n else n)

def withoutPlus? : List Char → Option (List Char)
  | '+' :: '-' :: _ => none
  | '+' :: rest => some rest
  | cs => some cs

/-- An integer numeral: a sign, digits in groups, and a fraction of zeros at most. -/
def integerNumeral? (cs : List Char) : Option Int := do
  let cs ← withoutPlus? (trimNumeral cs)
  let cs ← withoutLeadingZeros? cs
  let cs ← joinGroups? (withoutZeroFraction cs)
  signedDigits? cs

/-- A decimal numeral, an infinity or a NaN, in ASCII. -/
def numberNumeral? (cs : List Char) : Option Float :=
  let plain (cs : List Char) : Option Float :=
    if cs.all (fun c => c.toNat < 128 && c != '_' && !isBlank c) then Numeral.decimal? cs else none
  (plain (trimNumeral cs)).or (if cs.contains '_' then (joinGroups? cs).bind plain else none)

/-! ## Integers -/

def integerOfText (s : String) : Verdict Int :=
  if Numeral.maxDigits < s.length then .refuse .largeInteger
  else match integerNumeral? s.toList with
    | some n => .accepted n
    | none => .refuse .unparsableInteger

/-- A whole double that fits in 64 bits. -/
def integerOfFloat (x : Float) : Verdict Int :=
  match Binary64.reading x with
  | .finite m e =>
    if !Binary64.isWhole x then .refuse .fractionalInteger
    else
      let n := Binary64.truncate m e
      if n.natAbs < Nat.pow 2 63 then .accepted n else .refuse .largeInteger
  | _ => .refuse .notFinite

def integer : Value → Verdict Int
  | .int n => .accepted n
  | .bool b => .accepted (if b then 1 else 0)
  | .float x => integerOfFloat x
  | .text s => integerOfText s
  | .bytes bs =>
    match Utf8.decode? bs with
    | some cs => integerOfText (String.ofList cs)
    | none => .refuse .unparsableInteger
  | _ => .refuse .notInteger

/-- An integer written as one. -/
def strictInteger : Value → Verdict Int
  | .int n => .accepted n
  | _ => .refuse .notInteger

def integerAtLeast (bound : Int) (v : Value) : Verdict Int :=
  (integer v).andThen fun n => if bound ≤ n then .accepted n else .refuse (.notAtLeast bound)

/-! ## Doubles -/

def numberOfText (s : String) : Verdict Float :=
  match numberNumeral? s.toList with
  | some x => .accepted x
  | none => .refuse .unparsableNumber

def numberOfInt (n : Int) : Verdict Float :=
  match Binary64.ofInt? n with
  | some x => .accepted x
  | none => .refuse .notNumber

def number : Value → Verdict Float
  | .float x => .accepted x
  | .int n => numberOfInt n
  | .bool b => numberOfInt (if b then 1 else 0)
  | .text s => numberOfText s
  | .bytes bs =>
    match Utf8.decode? bs with
    | some cs => numberOfText (String.ofList cs)
    | none => .refuse .unparsableNumber
  | _ => .refuse .notNumber

/-- Whether a double is at least, or greater than, a whole number; a NaN is neither. -/
def reaches (strict : Bool) (bound : Int) (x : Float) : Bool :=
  match (Binary64.reading x).order (.ofInt bound) with
  | some .gt => true
  | some .eq => !strict
  | _ => false

def numberAtLeast (bound : Int) (v : Value) : Verdict Float :=
  (number v).andThen fun x => if reaches false bound x then .accepted x else .refuse (.notAtLeast bound)

def numberAbove (bound : Int) (v : Value) : Verdict Float :=
  (number v).andThen fun x => if reaches true bound x then .accepted x else .refuse (.notGreater bound)

/-! ## Truth values -/

def yesWords : List String := ["1", "t", "y", "on", "yes", "true"]
def noWords : List String := ["0", "f", "n", "no", "off", "false"]

def booleanOfText (s : String) : Verdict Bool :=
  let word := String.ofList (Numeral.asciiLower s.toList)
  if yesWords.contains word then .accepted true
  else if noWords.contains word then .accepted false
  else .refuse .unclearBoolean

def booleanOfInt (n : Int) : Verdict Bool :=
  if n = 0 then .accepted false
  else if n = 1 then .accepted true
  else .refuse .unclearBoolean

def boolean : Value → Verdict Bool
  | .bool b => .accepted b
  | .int n => booleanOfInt n
  | .float x =>
    match integerOfFloat x with
    | .accepted n => booleanOfInt n
    | .refused _ => .refuse .notBoolean
  | .text s => booleanOfText s
  | .bytes bs =>
    match Utf8.decode? bs with
    | some cs => booleanOfText (String.ofList cs)
    | none => .refuse .unclearBoolean
  | _ => .refuse .notBoolean

/-! ## Choices -/

def quotedWords (words : List String) : List String :=
  words.map fun w => s!"'{w}'"

/-- One of several words. -/
def choice (options : List (String × α)) (v : Value) : Verdict α :=
  match (v.text?).bind (fun t => options.lookup t) with
  | some a => .accepted a
  | none => .refuse (.noChoice (quotedWords (options.map Prod.fst)))

/-- One of several literal words. -/
def literalWord (options : List (String × α)) (v : Value) : Verdict α :=
  match (v.text?).bind (fun t => options.lookup t) with
  | some a => .accepted a
  | none => .refuse (.noLiteral (quotedWords (options.map Prod.fst)))

/-- One of several literal integers, however written as a number. -/
def literalInteger (options : List Int) (v : Value) : Verdict Int :=
  match options.find? fun n => v.hashable && v.sameKey (.int n) with
  | some n => .accepted n
  | none => .refuse (.noLiteral (options.map fun n => toString n))

end ApiJourney.Schema
