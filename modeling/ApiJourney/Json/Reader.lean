-- SUMMARY: Reading JSON texts.
import ApiJourney.Fault
import ApiJourney.Number.Numeral
import ApiJourney.Text.Utf8
import ApiJourney.Value.Equality

/-!
# Reading JSON

A reader of JSON texts. Besides the standard it takes the words NaN, Infinity
and -Infinity, and a number beyond the largest double is an infinity. An
integer of too many digits is refused, and a repeated key keeps its first place
and its last value.
-/

namespace ApiJourney.Json

open ApiJourney.Text

/-- The most containers that may be open at once. -/
def maxDepth : Nat := 985

def isJsonBlank (c : Char) : Bool :=
  c == ' ' || c == '\t' || c == '\n' || c == '\r'

def skipBlanks (cs : List Char) : List Char :=
  cs.dropWhile isJsonBlank

/-- What is left behind `word` when the text starts with it. -/
def after? (word : List Char) (cs : List Char) : Option (List Char) :=
  if word.isPrefixOf cs then some (cs.drop word.length) else none

/-! ## Numbers -/

/-- The digits of the whole part: a lone zero, or digits that start with another one. -/
def wholeDigits : List Char → List Char × List Char
  | '0' :: rest => (['0'], rest)
  | cs => (cs.takeWhile isAsciiDigit, cs.dropWhile isAsciiDigit)

/-- A point with digits behind it. -/
def fractionDigits : List Char → Option (List Char × List Char)
  | '.' :: rest =>
    let ds := rest.takeWhile isAsciiDigit
    if ds.isEmpty then none else some (ds, rest.dropWhile isAsciiDigit)
  | _ => none

/-- An exponent mark, a sign and digits. -/
def exponentPart : List Char → Option (Int × List Char)
  | c :: rest =>
    if c == 'e' || c == 'E' then
      let (negative, r) := Numeral.splitSign rest
      let ds := r.takeWhile isAsciiDigit
      if ds.isEmpty then none
      else
        let n : Int := Numeral.ofDigits 10 (ds.map fun c => c.toNat - 48)
        some (if negative then -n else n, r.dropWhile isAsciiDigit)
    else none
  | [] => none

def integerOf (negative : Bool) (digits : List Char) : Except Fault Value :=
  if Numeral.maxDigits < digits.length then .error .badValue
  else
    let n : Int := Numeral.ofDigits 10 (digits.map fun c => c.toNat - 48)
    .ok (.int (if negative then -n else n))

def number (cs : List Char) : Except Fault (Value × List Char) := do
  let (negative, body) := match cs with
    | '-' :: rest => (true, rest)
    | rest => (false, rest)
  let (whole, rest) := wholeDigits body
  if whole.isEmpty then .error .malformed
  else
    let fraction := fractionDigits rest
    let rest := (fraction.map Prod.snd).getD rest
    let exponent := exponentPart rest
    let rest := (exponent.map Prod.snd).getD rest
    if fraction.isNone && exponent.isNone then
      let v ← integerOf negative whole
      .ok (v, rest)
    else
      let x := Numeral.ofParts negative whole ((fraction.map Prod.fst).getD [])
        ((exponent.map Prod.fst).getD 0)
      .ok (.float x, rest)

/-! ## Texts -/

def hexFour? : List Char → Option (Nat × List Char)
  | a :: b :: c :: d :: rest => do
    let a ← Numeral.digitValue? 16 a
    let b ← Numeral.digitValue? 16 b
    let c ← Numeral.digitValue? 16 c
    let d ← Numeral.digitValue? 16 d
    some (((a * 16 + b) * 16 + c) * 16 + d, rest)
  | _ => none

/-- The low half that follows a high one. -/
def lowHalf? : List Char → Option (Nat × List Char)
  | '\\' :: 'u' :: rest => do
    let (low, rest) ← hexFour? rest
    if 0xDC00 ≤ low && low ≤ 0xDFFF then some (low, rest) else none
  | _ => none

/-- The character of a `\u` escape, both halves of a pair together. -/
def unicodeEscape? (cs : List Char) : Option (Char × List Char) := do
  let (code, rest) ← hexFour? cs
  if 0xD800 ≤ code && code ≤ 0xDBFF then
    match lowHalf? rest with
    | some (low, rest) => some (Char.ofNat (joinHalves code low), rest)
    | none => some (ofCode code, rest)
  else some (ofCode code, rest)

/-- The character behind a backslash. -/
def escape? : List Char → Option (Char × List Char)
  | 'u' :: rest => unicodeEscape? rest
  | c :: rest =>
    if c == '"' || c == '\\' || c == '/' then some (c, rest)
    else if c == 'b' then some (Char.ofNat 8, rest)
    else if c == 'f' then some (Char.ofNat 12, rest)
    else if c == 'n' then some ('\n', rest)
    else if c == 'r' then some ('\r', rest)
    else if c == 't' then some ('\t', rest)
    else none
  | [] => none

/-- The characters up to the closing quote, and what follows it. -/
def textBody : Nat → List Char → Except Fault (List Char × List Char)
  | 0, _ => .error .malformed
  | _ + 1, [] => .error .malformed
  | fuel + 1, c :: rest =>
    if c == '"' then .ok ([], rest)
    else if c == '\\' then
      match escape? rest with
      | some (d, rest) => do
        let (ds, rest) ← textBody fuel rest
        .ok (d :: ds, rest)
      | none => .error .malformed
    else if c.toNat < 32 then .error .malformed
    else do
      let (ds, rest) ← textBody fuel rest
      .ok (c :: ds, rest)

/-! ## Values -/

def words : List (List Char × Value) :=
  [("null".toList, .null), ("true".toList, .bool true), ("false".toList, .bool false),
   ("NaN".toList, .float Binary64.nan), ("Infinity".toList, .float (Binary64.infinity false)),
   ("-Infinity".toList, .float (Binary64.infinity true))]

/-- A word or a number. -/
def scalar (cs : List Char) : Except Fault (Value × List Char) :=
  match words.findSome? fun (w, v) => (after? w cs).map fun rest => (v, rest) with
  | some r => .ok r
  | none => number cs

mutual

/-- A value at the front of the text. -/
def value : Nat → Nat → List Char → Except Fault (Value × List Char)
  | 0, _, _ => .error .malformed
  | fuel + 1, depth, cs =>
    match cs with
    | '"' :: rest => do
      let (t, rest) ← textBody fuel rest
      .ok (.text (String.ofList t), rest)
    | '[' :: rest =>
      if maxDepth ≤ depth then .error .tooDeep
      else match skipBlanks rest with
        | ']' :: rest => .ok (.list [], rest)
        | rest => do
          let (xs, rest) ← items fuel (depth + 1) rest
          .ok (.list xs, rest)
    | '\x7b' :: rest =>
      if maxDepth ≤ depth then .error .tooDeep
      else match skipBlanks rest with
        | '\x7d' :: rest => .ok (.dict [], rest)
        | rest => do
          let (es, rest) ← fields fuel (depth + 1) rest
          .ok (.dict (Entries.ofList es), rest)
    | cs => scalar cs

/-- Items up to the closing bracket. -/
def items : Nat → Nat → List Char → Except Fault (List Value × List Char)
  | 0, _, _ => .error .malformed
  | fuel + 1, depth, cs => do
    let (x, rest) ← value fuel depth cs
    match skipBlanks rest with
    | ']' :: rest => .ok ([x], rest)
    | ',' :: rest =>
      let (xs, rest) ← items fuel depth (skipBlanks rest)
      .ok (x :: xs, rest)
    | _ => .error .malformed

/-- Fields up to the closing brace. -/
def fields : Nat → Nat → List Char → Except Fault (List (Value × Value) × List Char)
  | 0, _, _ => .error .malformed
  | fuel + 1, depth, cs =>
    match cs with
    | '"' :: rest => do
      let (k, rest) ← textBody fuel rest
      match skipBlanks rest with
      | ':' :: rest =>
        let (v, rest) ← value fuel depth (skipBlanks rest)
        match skipBlanks rest with
        | '\x7d' :: rest => .ok ([(.text (String.ofList k), v)], rest)
        | ',' :: rest =>
          let (es, rest) ← fields fuel depth (skipBlanks rest)
          .ok ((.text (String.ofList k), v) :: es, rest)
        | _ => .error .malformed
      | _ => .error .malformed
    | _ => .error .malformed

end

/-- The value of a JSON text. -/
def read (cs : List Char) : Except Fault Value := do
  let (v, rest) ← value (cs.length + 1) 0 (skipBlanks cs)
  if (skipBlanks rest).isEmpty then .ok v else .error .malformed

def parse (s : String) : Except Fault Value :=
  read s.toList

end ApiJourney.Json
