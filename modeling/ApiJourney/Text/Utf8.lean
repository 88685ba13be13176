-- SUMMARY: Reading bytes as UTF-8, and lone halves of surrogate pairs.

/-!
# UTF-8

Bytes read as characters. A malformed piece is the longest run of bytes that
starts a character without completing it; it is reported with its bytes, or
shown as the replacement character.

An escape in a text may name one half of a surrogate pair without the other. A
half is held as a character of the last 2048 private-use code points, and is
written as an escape again. These characters, U+10F800 to U+10FFFF, therefore
stand for halves only: a text that holds one of them itself is not told apart
from a text with a half, and is none of the texts that are meant here.
-/

namespace ApiJourney.Text.Utf8

/-- How many bytes follow a first byte, and the range of the second one. -/
def shape? (b : UInt8) : Option (Nat × Nat × Nat) :=
  let n := b.toNat
  if 0xC2 ≤ n && n ≤ 0xDF then some (1, 0x80, 0xBF)
  else if n == 0xE0 then some (2, 0xA0, 0xBF)
  else if n == 0xED then some (2, 0x80, 0x9F)
  else if 0xE1 ≤ n && n ≤ 0xEF then some (2, 0x80, 0xBF)
  else if n == 0xF0 then some (3, 0x90, 0xBF)
  else if 0xF1 ≤ n && n ≤ 0xF3 then some (3, 0x80, 0xBF)
  else if n == 0xF4 then some (3, 0x80, 0x8F)
  else none

/-- Continuation bytes: the code point when all are there, and how many were taken. -/
def follow (code : Nat) (low high : Nat) : Nat → List UInt8 → Option Nat × Nat
  | 0, _ => (some code, 0)
  | _ + 1, [] => (none, 0)
  | more + 1, b :: rest =>
    if low ≤ b.toNat && b.toNat ≤ high then
      let (r, taken) := follow (code * 64 + b.toNat % 64) 0x80 0xBF more rest
      (r, taken + 1)
    else (none, 0)

/-- The part of the code point that a first byte holds. -/
def leadBits (more : Nat) (b : UInt8) : Nat :=
  if more = 1 then b.toNat % 32 else if more = 2 then b.toNat % 16 else b.toNat % 8

/-- The characters of a byte string, and the bytes of each malformed piece. -/
def pieces : List UInt8 → List (Except (List UInt8) Char)
  | [] => []
  | b :: rest =>
    if b.toNat < 0x80 then .ok (Char.ofNat b.toNat) :: pieces rest
    else match shape? b with
      | none => .error [b] :: pieces rest
      | some (more, low, high) =>
        let r := follow (leadBits more b) low high more rest
        (match r.1 with
          | some code => .ok (Char.ofNat code)
          | none => .error (b :: rest.take r.2)) :: pieces (rest.drop r.2)
termination_by bs => bs.length
decreasing_by all_goals simp [List.length_drop]; try omega

/-- The text of a byte string, if it is well formed. -/
def decode? (bs : List UInt8) : Option (List Char) :=
  (pieces bs).mapM Except.toOption

/-- The text of a byte string, with the replacement character for malformed pieces. -/
def decodeLossy (bs : List UInt8) : List Char :=
  (pieces bs).map fun piece => piece.toOption.getD (Char.ofNat 0xFFFD)

def encode (s : String) : List UInt8 :=
  s.toUTF8.toList

end ApiJourney.Text.Utf8

/-! ## Lone surrogates -/

namespace ApiJourney.Text

def surrogateOffset : Nat := 0x10F800 - 0xD800

def isSurrogate (code : Nat) : Bool :=
  0xD800 ≤ code && code ≤ 0xDFFF

/-- The character that holds a code point. -/
def ofCode (code : Nat) : Char :=
  Char.ofNat (if isSurrogate code then code + surrogateOffset else code)

/-- The code point that a character holds. -/
def codeOf (c : Char) : Nat :=
  if 0x10F800 ≤ c.toNat && c.toNat ≤ 0x10FFFF then c.toNat - surrogateOffset else c.toNat

/-- The code point of a high and a low half together. -/
def joinHalves (high low : Nat) : Nat :=
  0x10000 + (high - 0xD800) * 0x400 + (low - 0xDC00)

/-- Whether a character holds one half of a surrogate pair. -/
def isHalf (c : Char) : Bool :=
  isSurrogate (codeOf c)

/-- Whether a text can be written as bytes. -/
def isEncodable (s : String) : Bool :=
  s.toList.all fun c => !isHalf c

end ApiJourney.Text
