-- SUMMARY: Conversions of values into the places that a template marks by percent signs.
import ApiJourney.Text.Case
import ApiJourney.Transform.Arithmetic
import ApiJourney.Transform.Expression
import ApiJourney.Value.Display
import ApiJourney.Value.Equality

/-!
# Percent templates

A template marks places by `%`, an optional key in parentheses, flags, a width,
a precision and a conversion letter. The places are filled from a tuple in
order, from an object by key, or from a single value. The same rules fill texts
and byte strings; a `Filling` says which.
-/

namespace ApiJourney.Transform

open ApiJourney.Text

/-! ## Widths -/

def isFlag (c : Char) : Bool :=
  c == '-' || c == '+' || c == ' ' || c == '#' || c == '0'

/-- A star or a decimal number. -/
def sizeAt (cs : List Char) : Option (List Char × List Char) :=
  match cs with
  | '*' :: rest => some (['*'], rest)
  | cs =>
    let ds := cs.takeWhile isDecimal
    if ds.isEmpty then none else some (ds, cs.dropWhile isDecimal)

/-- Skips a key in parentheses. -/
def skipKey (cs : List Char) : List Char :=
  match cs with
  | '(' :: rest => if rest.contains ')' then (rest.dropWhile (· != ')')).drop 1 else cs
  | cs => cs

/-- The sizes behind a percent sign and what follows them. -/
def sizesAt (cs : List Char) : List (List Char) × List Char :=
  let cs := (skipKey cs).dropWhile isFlag
  let (width, cs) := match sizeAt cs with
    | some (w, rest) => ([w], rest)
    | none => ([], cs)
  match cs with
  | '.' :: rest =>
    match sizeAt rest with
    | some (p, rest) => (width ++ [p], rest)
    | none => (width, cs)
  | cs => (width, cs)

/-- The sizes that the places of a template name, as far as keys hold no parentheses. -/
def templateSizes : Nat → List Char → List (List Char)
  | 0, _ => []
  | _ + 1, [] => []
  | fuel + 1, c :: rest =>
    if c == '%' then
      let (sizes, rest) := sizesAt rest
      sizes ++ templateSizes fuel rest
    else templateSizes fuel rest

def checkSize (size : List Char) : Except Error Unit :=
  if size == ['*'] then .error .starWidth
  else match Numeral.integer? 10 size with
    | some n => if (maxItems : Int) < n then .error .formatWidth else .ok ()
    | none => .error (.failed .badValue)

/-- Refuses templates whose widths or precisions are taken from the values or too large. -/
def checkTemplate (cs : List Char) : Except Error Unit :=
  (templateSizes (cs.length + 1) cs).forM checkSize

/-! ## Places -/

structure Place where
  left : Bool := false
  plus : Bool := false
  blank : Bool := false
  marked : Bool := false
  zero : Bool := false
  width : Nat := 0
  precision : Option Nat := none

def Place.withFlag (p : Place) (c : Char) : Place :=
  if c == '-' then { p with left := true }
  else if c == '+' then { p with plus := true }
  else if c == ' ' then { p with blank := true }
  else if c == '#' then { p with marked := true }
  else { p with zero := true }

/-- The values that are left for places. -/
inductive Supply where
  | items (rest : List Value)
  | one (v : Value)
  | spent

def Supply.next : Supply → Except Fault (Value × Supply)
  | .items (v :: rest) => .ok (v, .items rest)
  | .items [] => .error .wrongType
  | .one v => .ok (v, .spent)
  | .spent => .error .wrongType

def Supply.isLeft : Supply → Bool
  | .items rest => !rest.isEmpty
  | .one _ => true
  | .spent => false

/-- What is filled: texts, or byte strings. -/
inductive Filling where
  | text
  | bytes
  deriving DecidableEq

/-- Whether places may take their values by key. -/
def Filling.byKey : Filling → Value → Bool
  | _, .dict _ => true
  | _, .list _ => true
  | .text, .bytes _ => true
  | _, _ => false

def Filling.key : Filling → List Char → Value
  | .text, cs => .text (String.ofList cs)
  | .bytes, cs => .bytes (cs.map fun c => UInt8.ofNat c.toNat)

def Supply.of (v : Value) : Supply :=
  match v with
  | .tuple xs => .items xs
  | v => .one v

/-- The key up to the parenthesis that closes the innermost of `depth + 1` open ones. -/
def keyText? (depth : Nat) : List Char → Option (List Char × List Char)
  | [] => none
  | c :: rest =>
    if c == ')' then
      match depth with
      | 0 => some ([], rest)
      | depth + 1 => (keyText? depth rest).map fun (k, r) => (c :: k, r)
    else (keyText? (if c == '(' then depth + 1 else depth) rest).map fun (k, r) => (c :: k, r)

def lookupKey (container key : Value) : Except Fault Value :=
  match container with
  | .dict es =>
    match Entries.find? es key with
    | some v => .ok v
    | none => .error .missingKey
  | _ => .error .wrongType

def isFormatDigit (c : Char) : Bool := '0' ≤ c && c ≤ '9'

def digitsValue (ds : List Char) : Nat :=
  Numeral.ofDigits 10 (ds.map fun c => c.toNat - 48)

/-- An integer taken from the values, for a star. -/
def starSize (supply : Supply) : Except Fault (Int × Supply) := do
  let (v, supply) ← supply.next
  match v.int? with
  | some n => if Nat.pow 2 63 ≤ n.natAbs then .error .overflow else .ok (n, supply)
  | none => .error .wrongType

def placeWidth (p : Place) (supply : Supply) (cs : List Char) : Except Fault (Place × Supply × List Char) :=
  match cs with
  | '*' :: rest => do
    let (n, supply) ← starSize supply
    .ok ({ p with width := n.natAbs, left := p.left || n < 0 }, supply, rest)
  | cs =>
    let n := digitsValue (cs.takeWhile isFormatDigit)
    if Nat.pow 2 63 ≤ n then .error .badValue
    else .ok ({ p with width := n }, supply, cs.dropWhile isFormatDigit)

def placePrecision (p : Place) (supply : Supply) (cs : List Char) : Except Fault (Place × Supply × List Char) :=
  match cs with
  | '.' :: '*' :: rest => do
    let (n, supply) ← starSize supply
    .ok ({ p with precision := some n.toNat }, supply, rest)
  | '.' :: rest =>
    let n := digitsValue (rest.takeWhile isFormatDigit)
    if Nat.pow 2 31 ≤ n then .error .badValue
    else .ok ({ p with precision := some n }, supply, rest.dropWhile isFormatDigit)
  | cs => .ok (p, supply, cs)

/-- The letters `h`, `l` and `L` before a conversion mean nothing. -/
def skipLength : List Char → List Char
  | c :: rest => if c == 'h' || c == 'l' || c == 'L' then rest else c :: rest
  | [] => []

/-! ## Numbers -/

/-- An integer in base 8, 10 or 16, with its minus sign. -/
def integerBody (p : Place) (conversion : Char) (n : Int) : Except Fault (List Char) := do
  let hexadecimal := conversion == 'x' || conversion == 'X'
  let digits ←
    if hexadecimal then .ok (Nat.toDigits 16 n.natAbs)
    else if conversion == 'o' then .ok (Nat.toDigits 8 n.natAbs)
    else match Value.intText? n.natAbs with
      | some t => .ok t.toList
      | none => .error .badValue
  let digits := List.replicate ((p.precision.getD 0) - digits.length) '0' ++ digits
  let mark := if !p.marked then [] else if hexadecimal then ['0', 'x'] else if conversion == 'o' then ['0', 'o'] else []
  let body := (if n < 0 then ['-'] else []) ++ mark ++ digits
  .ok (if conversion == 'X' then body.map upperChar else body)

/-- The integer of a value for a decimal conversion; doubles lose their fraction. -/
def truncatedInt (v : Value) : Except Fault Int :=
  match v with
  | .float x =>
    match Binary64.reading x with
    | .finite m e => .ok (Binary64.truncate m e)
    | .infinite _ => .error .overflow
    | .nan => .error .badValue
  | v =>
    match v.int? with
    | some n => .ok n
    | none => .error .wrongType

def exactInt (v : Value) : Except Fault Int :=
  match v.int? with
  | some n => .ok n
  | none => .error .wrongType

def scientificText (marked : Bool) (digits : List Char) (exponent : Int) : List Char :=
  let mantissa := match digits with
    | [] => []
    | [d] => if marked then [d, '.'] else [d]
    | d :: rest => d :: '.' :: rest
  mantissa ++ 'e' :: Decimal.exponentText exponent

/-- `count` significant digits of a magnitude, and the exponent of the first. -/
def significantDigits (m : Nat) (e : Int) (count : Nat) : List Char × Int :=
  if m = 0 then (List.replicate count '0', 0)
  else
    let (digits, exponent) := Decimal.significant m e count
    (Nat.toDigits 10 digits, exponent)

def generalText (marked : Bool) (m : Nat) (e : Int) (precision : Nat) : List Char :=
  let count := max 1 precision
  let (digits, exponent) := significantDigits m e count
  let shown := if marked then digits else
    match Decimal.dropTrailingZeros digits with
    | [] => ['0']
    | ds => ds
  if exponent < -4 || (count : Int) ≤ exponent then scientificText marked shown exponent
  else
    let (whole, fraction) := Decimal.withPoint shown (exponent + 1)
    if fraction.isEmpty then (if marked then whole ++ ['.'] else whole) else whole ++ '.' :: fraction

/-- A double in fixed, scientific or general notation. -/
def floatBody (p : Place) (conversion : Char) (x : Float) : List Char :=
  let precision := p.precision.getD 6
  let lower := lowerChar conversion
  let body := match Binary64.reading x with
    | .nan => "nan".toList
    | .infinite negative => if negative then "-inf".toList else "inf".toList
    | .finite m e =>
      let text :=
        if lower == 'f' then Decimal.fixedText p.marked precision (Decimal.atPlaces m.natAbs e precision)
        else if lower == 'e' then
          let (digits, exponent) := significantDigits m.natAbs e (precision + 1)
          scientificText p.marked digits exponent
        else generalText p.marked m.natAbs e precision
      if Binary64.isNegative x then '-' :: text else text
  if lower == conversion then body else body.map upperChar

def floatOf (v : Value) : Except Fault Float :=
  match v with
  | .float x => .ok x
  | v =>
    match v.int? with
    | some n => toDouble n
    | none => .error .wrongType

/-! ## Conversions -/

def shownText (v : Value) : Except Fault (List Char) :=
  match v.shown? with
  | some t => .ok t.toList
  | none => .error .badValue

def writtenText (v : Value) : Except Fault (List Char) :=
  match v.written? with
  | some t => .ok t.toList
  | none => .error .badValue

def characterOf (f : Filling) (v : Value) : Except Fault (List Char) :=
  match f, v with
  | .text, .text s => if s.length = 1 then .ok s.toList else .error .wrongType
  | .bytes, .bytes bs => if bs.length = 1 then .ok (bs.map charOfByte) else .error .wrongType
  | f, v =>
    match v.int? with
    | some n =>
      let limit := if f = .text then 0x110000 else 256
      if 0 ≤ n && n < limit then .ok [ofCode n.toNat] else .error .overflow
    | none => .error .wrongType

def isIntegerConversion (c : Char) : Bool :=
  c == 'd' || c == 'i' || c == 'u' || c == 'o' || c == 'x' || c == 'X'

def isFloatConversion (c : Char) : Bool :=
  c == 'e' || c == 'E' || c == 'f' || c == 'F' || c == 'g' || c == 'G'

/-- The text of a value under a conversion, and whether it has a sign. -/
def convert (f : Filling) (p : Place) (conversion : Char) (v : Value) : Except Fault (List Char × Bool) :=
  if isIntegerConversion conversion then do
    let n ← if conversion == 'd' || conversion == 'i' || conversion == 'u' then truncatedInt v else exactInt v
    let body ← integerBody p conversion n
    .ok (body, true)
  else if isFloatConversion conversion then do
    let x ← floatOf v
    .ok (floatBody p conversion x, true)
  else do
    let body ←
      if conversion == 'c' then characterOf f v
      else if conversion == 'a' then (writtenText v).map escapeAboveAscii
      else if conversion == 'r' then
        (writtenText v).map fun t => if f = .bytes then escapeAboveAscii t else t
      else if conversion == 's' || (conversion == 'b' && f = .bytes) then
        match f, v with
        | .text, v => shownText v
        | .bytes, .bytes bs => .ok (bs.map charOfByte)
        | .bytes, _ => .error .wrongType
      else .error .badValue
    let cut := conversion == 's' || conversion == 'r' || conversion == 'a' || conversion == 'b'
    .ok (if cut then body.take (p.precision.getD body.length) else body, false)

/-- Pads a converted value to the width of its place. -/
def Place.fill (p : Place) (conversion : Char) (body : List Char) (signed : Bool) : List Char :=
  let (sign, body) :=
    if !signed then ([], body)
    else match body with
      | '-' :: rest => (['-'], rest)
      | body => (if p.plus then ['+'] else if p.blank then [' '] else [], body)
  let markLength :=
    if p.marked && (conversion == 'x' || conversion == 'X' || conversion == 'o') then 2 else 0
  let mark := body.take markLength
  let body := body.drop markLength
  let missing := p.width - (sign.length + mark.length + body.length)
  if p.left then sign ++ mark ++ body ++ List.replicate missing ' '
  else if signed && p.zero then sign ++ mark ++ List.replicate missing '0' ++ body
  else List.replicate missing ' ' ++ sign ++ mark ++ body

/-! ## Templates -/

/-- What a template is filled to, piece by piece: a character that stands in it, or a converted
    value in its place. -/
inductive Piece where
  | character (c : Char)
  | converted (place : Place) (conversion : Char) (body : List Char) (signed : Bool)

def Piece.chars : Piece → List Char
  | .character c => [c]
  | .converted place conversion body signed => place.fill conversion body signed

/-- A place behind its key, and the value that is converted there. -/
def sizedPiece (f : Filling) (supply : Supply) (cs : List Char) :
    Except Fault (Piece × Supply × List Char) := do
  let p : Place := (cs.takeWhile isFlag).foldl Place.withFlag {}
  let (p, supply, cs) ← placeWidth p supply (cs.dropWhile isFlag)
  let (p, supply, cs) ← placePrecision p supply cs
  match skipLength cs with
  | [] => .error .badValue
  | conversion :: rest => do
    let (v, supply) ← supply.next
    let (body, signed) ← convert f p conversion v
    .ok (.converted p conversion body signed, supply, rest)

/-- The piece of a place whose percent sign is read already. -/
def pieceAt (f : Filling) (args : Value) (supply : Supply) (cs : List Char) :
    Except Fault (Piece × Supply × List Char) :=
  match cs with
  | '(' :: rest =>
    if !f.byKey args then .error .wrongType
    else match keyText? 0 rest with
      | none => .error .badValue
      | some (key, rest) => do
        let v ← lookupKey args (f.key key)
        sizedPiece f (.one v) rest
  | cs => sizedPiece f supply cs

def piecesFrom (f : Filling) (args : Value) : Nat → Supply → List Char → Except Fault (List Piece)
  | 0, _, _ => .ok []
  | _ + 1, supply, [] => if supply.isLeft && !f.byKey args then .error .wrongType else .ok []
  | fuel + 1, supply, '%' :: '%' :: rest => do
    let more ← piecesFrom f args fuel supply rest
    .ok (.character '%' :: more)
  | fuel + 1, supply, c :: rest =>
    if c == '%' then do
      let (piece, supply, rest) ← pieceAt f args supply rest
      let more ← piecesFrom f args fuel supply rest
      .ok (piece :: more)
    else do
      let more ← piecesFrom f args fuel supply rest
      .ok (.character c :: more)

/-- The pieces of a template that is filled from a tuple, an object or a single value. -/
def pieces (f : Filling) (template : List Char) (args : Value) : Except Fault (List Piece) :=
  piecesFrom f args (template.length + 1) (Supply.of args) template

def fillTemplate (f : Filling) (template : List Char) (args : Value) : Except Fault (List Char) :=
  (pieces f template args).map (·.flatMap Piece.chars)

end ApiJourney.Transform
