-- SUMMARY: JSON text of values.
import ApiJourney.Fault
import ApiJourney.Value.Display

/-!
# JSON text

Writing values as JSON. The compact style has no blanks and keeps characters
above ASCII; the spaced style separates items by blanks and escapes them.
NaN and the infinities have words of their own.
-/

namespace ApiJourney.Json

structure Style where
  itemSeparator : List Char
  keySeparator : List Char
  /-- Whether everything outside of printable ASCII is escaped. -/
  asciiOnly : Bool

def compact : Style := ⟨[','], [':'], false⟩
def spaced : Style := ⟨[',', ' '], [':', ' '], true⟩

/-! ## Texts -/

def unitEscape (unit : Nat) : List Char :=
  '\\' :: 'u' :: Text.hex 4 unit

/-- The escape of a code point, in two halves above the first plane. -/
def codeEscape (code : Nat) : List Char :=
  if code < 0x10000 then unitEscape code
  else unitEscape (0xD800 + (code - 0x10000) / 0x400) ++ unitEscape (0xDC00 + (code - 0x10000) % 0x400)

def escapeChar (s : Style) (c : Char) : List Char :=
  if c == '"' then ['\\', '"']
  else if c == '\\' then ['\\', '\\']
  else if c == '\n' then ['\\', 'n']
  else if c == '\r' then ['\\', 'r']
  else if c == '\t' then ['\\', 't']
  else if c.toNat == 12 then ['\\', 'f']
  else if c.toNat == 8 then ['\\', 'b']
  else if c.toNat < 32 || (s.asciiOnly && 127 ≤ c.toNat) then codeEscape (Text.codeOf c)
  else [c]

def writeText (s : Style) (cs : List Char) : List Char :=
  '"' :: cs.flatMap (escapeChar s) ++ ['"']

/-! ## Values -/

def writeFloat (x : Float) : List Char :=
  match Binary64.reading x with
  | .nan => "NaN".toList
  | .infinite negative => if negative then "-Infinity".toList else "Infinity".toList
  | .finite _ _ => Decimal.plain.text x

def writeInt (n : Int) : Except Fault (List Char) :=
  match Value.intText? n with
  | some t => .ok t.toList
  | none => .error .badValue

/-- The text of a key; keys that are neither texts nor plain scalars have none. -/
def keyText : Value → Except Fault (List Char)
  | .text t => .ok t.toList
  | .null => .ok "null".toList
  | .bool b => .ok (if b then "true".toList else "false".toList)
  | .int n => writeInt n
  | .float x => .ok (writeFloat x)
  | _ => .error .wrongType

def joined (separator : List Char) : List (List Char) → List Char
  | [] => []
  | [t] => t
  | t :: rest => t ++ separator ++ joined separator rest

theorem joined_cons (c : Char) (t t' : List Char) (ts : List (List Char)) :
    joined [c] (t :: t' :: ts) = t ++ c :: joined [c] (t' :: ts) := by
  simp [joined]

mutual

def write (s : Style) : Value → Except Fault (List Char)
  | .null => .ok "null".toList
  | .bool b => .ok (if b then "true".toList else "false".toList)
  | .int n => writeInt n
  | .float x => .ok (writeFloat x)
  | .text t => .ok (writeText s t.toList)
  | .list xs => do
    let ts ← writeItems s xs
    .ok ('[' :: joined s.itemSeparator ts ++ [']'])
  | .tuple xs => do
    let ts ← writeItems s xs
    .ok ('[' :: joined s.itemSeparator ts ++ [']'])
  | .dict es => do
    let ts ← writeEntries s es
    .ok ('\x7b' :: joined s.itemSeparator ts ++ ['\x7d'])
  | .bytes _ => .error .wrongType
  | .complex _ _ => .error .wrongType
  | .ellipsis => .error .wrongType
  | .foreign _ => .error .wrongType

def writeItems (s : Style) : List Value → Except Fault (List (List Char))
  | [] => .ok []
  | x :: rest => do
    let t ← write s x
    let ts ← writeItems s rest
    .ok (t :: ts)

def writeEntries (s : Style) : List (Value × Value) → Except Fault (List (List Char))
  | [] => .ok []
  | (k, v) :: rest => do
    let k ← keyText k
    let t ← write s v
    let ts ← writeEntries s rest
    .ok ((writeText s k ++ s.keySeparator ++ t) :: ts)

end

/-- The compact JSON text of a value. -/
def text (v : Value) : Except Fault String :=
  (write compact v).map String.ofList

end ApiJourney.Json
