-- SUMMARY: Reading bytes in a named encoding, with a named way to mend what is malformed.
import ApiJourney.Fault
import ApiJourney.Text.Quoted
import ApiJourney.Text.Utf8

/-!
# Encodings

A byte string is read as characters and malformed pieces, and each piece is mended. The
names of encodings are told apart by their letters and digits alone. There are those of Unicode,
ASCII, and the two for western languages that keep it; any other name counts as unknown, also
where a system knows tables for it.
-/

namespace ApiJourney.Text

inductive Encoding where
  | utf8
  /-- UTF-8 behind an optional mark. -/
  | markedUtf8
  /-- Units of two bytes; the order is told by a mark when it is not given. -/
  | utf16 (bigEnd : Option Bool)
  /-- Units of four bytes. -/
  | utf32 (bigEnd : Option Bool)
  | ascii
  | latin1
  | windows1252

namespace Encoding

/-- A character, or the bytes of a malformed piece. -/
abbrev Piece := Except (List UInt8) Char

/-! ## Names -/

/-- A name in lower case, with one underscore for what stands between letters, digits and points. -/
def canonicalName (name : String) : String :=
  String.ofList ((name.toList.foldl add ([], false)).1.reverse)
where
  add : List Char × Bool → Char → List Char × Bool
    | (cs, gap), c =>
      if c.isAlphanum || c == '.' then
        (c.toLower :: (if gap && !cs.isEmpty then '_' :: cs else cs), false)
      else (cs, true)

def names : List (List String × Encoding) :=
  [(["utf_8", "utf8", "u8", "utf", "utf8_ucs2", "utf8_ucs4", "cp65001"], utf8),
   (["utf_8_sig"], markedUtf8),
   (["utf_16", "utf16", "u16"], utf16 none),
   (["utf_16_le", "utf_16le", "unicodelittleunmarked"], utf16 (some false)),
   (["utf_16_be", "utf_16be", "unicodebigunmarked"], utf16 (some true)),
   (["utf_32", "utf32", "u32"], utf32 none),
   (["utf_32_le", "utf_32le"], utf32 (some false)),
   (["utf_32_be", "utf_32be"], utf32 (some true)),
   (["ascii", "us_ascii", "646", "ansi_x3.4_1968", "ansi_x3.4_1986", "ansi_x3_4_1968", "cp367",
     "csascii", "ibm367", "iso646_us", "iso_646.irv_1991", "iso_ir_6", "us"], ascii),
   (["latin_1", "latin1", "8859", "cp819", "csisolatin1", "ibm819", "iso8859", "iso8859_1",
     "iso_8859_1", "iso_8859_1_1987", "iso_ir_100", "l1", "latin"], latin1),
   (["cp1252", "1252", "windows_1252"], windows1252)]

def named? (name : String) : Option Encoding :=
  (names.find? fun (known, _) => known.contains (canonicalName name)).map Prod.snd

/-! ## Units -/

/-- The number that bytes stand for. -/
def unit (bigEnd : Bool) (bs : List UInt8) : Nat :=
  (if bigEnd then bs else bs.reverse).foldl (fun n b => n * 256 + b.toNat) 0

def isHighHalf (code : Nat) : Bool := 0xD800 ≤ code && code < 0xDC00
def isLowHalf (code : Nat) : Bool := 0xDC00 ≤ code && code < 0xE000

/-- Units of two bytes; two halves of a pair are one character. -/
def pieces16 (bigEnd : Bool) : List UInt8 → List Piece
  | a :: b :: c :: d :: rest =>
    let first := unit bigEnd [a, b]
    let second := unit bigEnd [c, d]
    if isHighHalf first && isLowHalf second then
      .ok (Char.ofNat (joinHalves first second)) :: pieces16 bigEnd rest
    else if isSurrogate first then .error [a, b] :: pieces16 bigEnd (c :: d :: rest)
    else .ok (Char.ofNat first) :: pieces16 bigEnd (c :: d :: rest)
  | a :: b :: rest =>
    let code := unit bigEnd [a, b]
    if isHighHalf code then [.error (a :: b :: rest)]
    else (if isSurrogate code then .error [a, b] else .ok (Char.ofNat code))
      :: (if rest.isEmpty then [] else [.error rest])
  | [] => []
  | bs => [.error bs]

/-- Units of four bytes. -/
def pieces32 (bigEnd : Bool) : List UInt8 → List Piece
  | a :: b :: c :: d :: rest =>
    let code := unit bigEnd [a, b, c, d]
    (if isSurrogate code || 0x10FFFF < code then .error [a, b, c, d] else .ok (Char.ofNat code))
      :: pieces32 bigEnd rest
  | [] => []
  | bs => [.error bs]

/-- The order that a mark of two or four bytes tells, and what follows it. -/
def marked (little : List UInt8) (bs : List UInt8) : Bool × List UInt8 :=
  if little.isPrefixOf bs then (false, bs.drop little.length)
  else if little.reverse.isPrefixOf bs then (true, bs.drop little.length)
  else (false, bs)

/-! ## Bytes -/

/-- The characters from 128 to 159; zero stands for none. -/
def windowsHigh : List Nat :=
  [0x20AC, 0, 0x201A, 0x0192, 0x201E, 0x2026, 0x2020, 0x2021, 0x02C6, 0x2030, 0x0160, 0x2039,
   0x0152, 0, 0x017D, 0, 0, 0x2018, 0x2019, 0x201C, 0x201D, 0x2022, 0x2013, 0x2014, 0x02DC,
   0x2122, 0x0161, 0x203A, 0x0153, 0, 0x017E, 0x0178]

def windowsPiece (b : UInt8) : Piece :=
  if 128 ≤ b.toNat && b.toNat < 160 then
    match windowsHigh[b.toNat - 128]?.getD 0 with
    | 0 => .error [b]
    | code => .ok (Char.ofNat code)
  else .ok (charOfByte b)

def asciiPiece (b : UInt8) : Piece :=
  if b.toNat < 128 then .ok (charOfByte b) else .error [b]

/-- The characters and the malformed pieces of a byte string. -/
def pieces (e : Encoding) (bs : List UInt8) : List Piece :=
  match e with
  | utf8 => Utf8.pieces bs
  | markedUtf8 => Utf8.pieces (if [0xEF, 0xBB, 0xBF].isPrefixOf bs then bs.drop 3 else bs)
  | utf16 none =>
    let (bigEnd, bs) := marked [0xFF, 0xFE] bs
    pieces16 bigEnd bs
  | utf16 (some bigEnd) => pieces16 bigEnd bs
  | utf32 none =>
    let (bigEnd, bs) := marked [0xFF, 0xFE, 0, 0] bs
    pieces32 bigEnd bs
  | utf32 (some bigEnd) => pieces32 bigEnd bs
  | ascii => bs.map asciiPiece
  | latin1 => bs.map fun b => .ok (charOfByte b)
  | windows1252 => bs.map windowsPiece

/-! ## Mending -/

/-- Whether the units of an encoding have their highest byte first, as given or told by a mark. -/
def hasBigEnd (e : Encoding) (bs : List UInt8) : Bool :=
  match e with
  | utf16 order => order.getD (marked [0xFF, 0xFE] bs).1
  | utf32 order => order.getD (marked [0xFF, 0xFE, 0, 0] bs).1
  | _ => false

/-- The half of a pair that a malformed piece is, in units of two or four bytes. -/
def halfUnit? (e : Encoding) (bigEnd : Bool) (bs : List UInt8) : Option Char :=
  let width := match e with
    | utf16 _ => 2
    | utf32 _ => 4
    | _ => 0
  if bs.length = width && isSurrogate (unit bigEnd bs) then some (ofCode (unit bigEnd bs)) else none

/-- The half of a pair that three bytes are, each of them malformed by itself. -/
def halfBytes? (e : Encoding) (a b c : UInt8) : Option Char :=
  let isUnicode := match e with
    | utf8 | markedUtf8 => true
    | _ => false
  if isUnicode && a == 0xED && 0xA0 ≤ b && b < 0xC0 && 0x80 ≤ c && c < 0xC0 then
    some (ofCode (0xD000 + (b.toNat - 0x80) * 64 + (c.toNat - 0x80)))
  else none

/-- Halves of pairs are let pass; all else that is malformed is a fault. -/
def passHalves (e : Encoding) (bigEnd : Bool) : List Piece → Except Fault (List Char)
  | [] => .ok []
  | .ok c :: rest => (passHalves e bigEnd rest).map (c :: ·)
  | .error [a] :: .error [b] :: .error [c] :: rest =>
    match halfBytes? e a b c with
    | some half => (passHalves e bigEnd rest).map (half :: ·)
    | none => .error .undecodable
  | .error bs :: rest =>
    match halfUnit? e bigEnd bs with
    | some half => (passHalves e bigEnd rest).map (half :: ·)
    | none => .error .undecodable

/-- What stands for a malformed piece, by the name of a way to mend it. -/
def mend (way : String) (bs : List UInt8) : Except Fault (List Char) :=
  match way with
  | "strict" => .error .undecodable
  | "ignore" => .ok []
  | "replace" => .ok [Char.ofNat 0xFFFD]
  | "backslashreplace" => .ok (bs.flatMap fun b => escapeCode b.toNat)
  | "surrogateescape" =>
    if bs.all (128 ≤ ·.toNat) then .ok (bs.map fun b => ofCode (0xDC00 + b.toNat))
    else .error .undecodable
  | "xmlcharrefreplace" => .error .wrongType
  | "namereplace" => .error .wrongType
  | _ => .error .unknownName

def mended (way : String) : Piece → Except Fault (List Char)
  | .ok c => .ok [c]
  | .error bs => mend way bs

/-- The text of a byte string. -/
def decode (e : Encoding) (way : String) (bs : List UInt8) : Except Fault (List Char) :=
  if way == "surrogatepass" then passHalves e (e.hasBigEnd bs) (e.pieces bs)
  else ((e.pieces bs).mapM (mended way)).map List.flatten

end Encoding

end ApiJourney.Text
