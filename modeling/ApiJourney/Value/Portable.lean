-- SUMMARY: Values as plain JSON documents hold them.
import ApiJourney.Fault
import ApiJourney.Text.Utf8
import ApiJourney.Value.Display
import ApiJourney.Value.Equality

/-!
# Portable values

What leaves the program is a plain JSON document: tuples are lists, byte strings and
complex numbers are texts, keys are texts, and numbers that JSON does not have are null.
There is nothing that the ellipsis could become, and values of further classes become
their shown texts.
-/

namespace ApiJourney.Value

/-- Positional notation throughout. -/
def positional : Decimal.Layout := ⟨-400, 400, false⟩

/-- A complex number as a sum; a real part of zero is left out. -/
def complexSum (re im : Float) : String :=
  let imaginary := positional.text im ++ ['j']
  if (Binary64.reading re).isZero then String.ofList imaginary
  else
    let sign := if Binary64.isNegative im then [] else ['+']
    String.ofList (positional.text re ++ sign ++ imaginary)

def bytesText (bs : List UInt8) : Except Fault String :=
  match Text.Utf8.decode? bs with
  | some cs => .ok (String.ofList cs)
  | none => .error .undecodable

mutual

/-- The text that a key becomes. -/
def portableKey : Value → Except Fault String
  | .text s => .ok s
  | .null => .ok "None"
  | .bool b => .ok (if b then "true" else "false")
  | .int n =>
    match intText? n with
    | some s => .ok s
    | none => .error .badValue
  | .float x => .ok (Decimal.text x)
  | .bytes bs => bytesText bs
  | .complex re im => .ok (complexSum re im)
  | .tuple xs => do
    let ts ← portableKeys xs
    .ok (String.intercalate "," ts)
  | _ => .error .wrongType

def portableKeys : List Value → Except Fault (List String)
  | [] => .ok []
  | x :: rest => do
    let t ← portableKey x
    let ts ← portableKeys rest
    .ok (t :: ts)

end

mutual

/-- What a value becomes outside of the program. -/
def portable : Value → Except Fault Value
  | .float x =>
    match Binary64.reading x with
    | .finite _ _ => .ok (.float x)
    | _ => .ok .null
  | .bytes bs => (bytesText bs).map .text
  | .complex re im => .ok (.text (complexSum re im))
  | .list xs => do
    let xs ← portableItems xs
    .ok (.list xs)
  | .tuple xs => do
    let xs ← portableItems xs
    .ok (.list xs)
  | .dict es => do
    let es ← portableEntries es
    .ok (.dict (Entries.ofList es))
  | .ellipsis => .error .wrongType
  | .foreign x => (x.shown.map .text).elim (.error .badValue) .ok
  | v => .ok v

def portableItems : List Value → Except Fault (List Value)
  | [] => .ok []
  | x :: rest => do
    let x ← portable x
    let xs ← portableItems rest
    .ok (x :: xs)

def portableEntries : List (Value × Value) → Except Fault (List (Value × Value))
  | [] => .ok []
  | (k, v) :: rest => do
    let k ← portableKey k
    let v ← portable v
    let es ← portableEntries rest
    .ok ((.text k, v) :: es)

end

end ApiJourney.Value
