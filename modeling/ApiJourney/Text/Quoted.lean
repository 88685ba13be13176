-- SUMMARY: Quoted form of texts and byte strings.
import ApiJourney.Text.Printable
import ApiJourney.Text.Utf8

/-!
# Quoted texts

A quoted text stands between single quotes, or between double quotes when it
holds a single quote and no double one. The quote, the backslash and what is
not printable are escaped.
-/

namespace ApiJourney.Text

/-- `n` in at least `width` hexadecimal digits. -/
def hex (width n : Nat) : List Char :=
  let digits := Nat.toDigits 16 n
  List.replicate (width - digits.length) '0' ++ digits

def quoteFor (holds : Char → Bool) : Char :=
  if holds '\'' && !holds '"' then '"' else '\''

def escapeCode (code : Nat) : List Char :=
  if code ≤ 0xFF then '\\' :: 'x' :: hex 2 code
  else if code ≤ 0xFFFF then '\\' :: 'u' :: hex 4 code
  else '\\' :: 'U' :: hex 8 code

/-- One character between quotes. -/
def quoteChar (quote : Char) (keep : Char → Bool) (c : Char) : List Char :=
  if c == quote || c == '\\' then ['\\', c]
  else if c == '\t' then ['\\', 't']
  else if c == '\n' then ['\\', 'n']
  else if c == '\r' then ['\\', 'r']
  else if keep c then [c]
  else escapeCode (codeOf c)

def quotedWith (keep : Char → Bool) (cs : List Char) : List Char :=
  let quote := quoteFor fun c => cs.contains c
  quote :: cs.flatMap (quoteChar quote keep) ++ [quote]

def quoted (cs : List Char) : List Char :=
  quotedWith isPrintable cs

/-- The escapes of all characters above ASCII in a text that is quoted already. -/
def escapeAboveAscii (cs : List Char) : List Char :=
  cs.flatMap fun c => if c.toNat < 128 then [c] else escapeCode (codeOf c)

def charOfByte (b : UInt8) : Char :=
  Char.ofNat b.toNat

def quotedBytes (bs : List UInt8) : List Char :=
  'b' :: quotedWith (fun c => 32 ≤ c.toNat && c.toNat < 127) (bs.map charOfByte)

end ApiJourney.Text
