-- SUMMARY: The characters that names stand for.
import ApiJourney.Text.CharacterName.Basic
import ApiJourney.Text.CharacterName.Supplementary
import ApiJourney.Text.Ranges

/-!
# Character names

A name stands for a character, whatever the case of its letters. Syllables of Hangul are
named by their sounds and ideographs by their code points; these names are in upper case only.
-/

namespace ApiJourney.Text.CharacterName

/-! ## Lists of names -/

def isMark (c : Char) : Bool :=
  c == '@' || ('a' ≤ c && c ≤ 'z')

/-- The marks of a list, each with what follows it up to the next one. -/
def pieces (cs : List Char) : List (Char × List Char) :=
  (cs.foldr (fun c (text, found) => if isMark c then ([], (c, text) :: found) else (c :: text, found))
    ([], [])).2

def wordsOf (text : List Char) : List (List Char) :=
  if text.isEmpty then [] else split [' '] none text

/-- The code point of a name, given by its words; `code` is that of the next piece, and `before`
    the name before it. -/
def findIn (name : List (List Char)) (code : Nat) (before : List (List Char)) :
    List (Char × List Char) → Option Nat
  | [] => none
  | (mark, text) :: rest =>
    if mark == '@' then findIn name (hexNumber text) before rest
    else
      let words := before.take (mark.toNat - 97) ++ wordsOf text
      if words == name then some code else findIn name (code + 1) words rest

def listings : List String := [basicListing, furtherListing, supplementaryListing]

def listed? (name : List Char) : Option Nat :=
  listings.findSome? fun l => findIn (wordsOf name) 0 [] (pieces (unbroken l))

/-! ## Names with numbers -/

/-- What follows a beginning. -/
def behind? (beginning : String) (name : List Char) : Option (List Char) :=
  if beginning.toList.isPrefixOf name then some (name.drop beginning.length) else none

def isHexDigit (c : Char) : Bool :=
  ('0' ≤ c && c ≤ '9') || ('A' ≤ c && c ≤ 'F')

/-- A code point in at least four hexadecimal digits. -/
def codeDigits? (cs : List Char) : Option Nat :=
  if cs.all isHexDigit && (cs.length == 4 || cs.length == 5) then some (hexNumber cs) else none

def ideographRanges : List (Nat × Nat) := [
  (0x3400, 0x4DBF), (0x4E00, 0x9FFF), (0x20000, 0x2A6DF), (0x2A700, 0x2B738), (0x2B740, 0x2B81D),
  (0x2B820, 0x2CEA1), (0x2CEB0, 0x2EBE0), (0x30000, 0x3134A)]

/-- Ideographs are the only ones whose number may have a zero in front. -/
def ideograph? (name : List Char) : Option Nat := do
  let n ← codeDigits? (← behind? "CJK UNIFIED IDEOGRAPH-" name)
  if inRanges ideographRanges n then some n else none

/-- Characters that are named by their code points, with the beginnings of their names. -/
def numberedRanges : List (String × List (Nat × Nat)) := [
  ("CJK COMPATIBILITY IDEOGRAPH-", [(0xF900, 0xFA6D), (0xFA70, 0xFAD9), (0x2F800, 0x2FA1D)]),
  ("KHITAN SMALL SCRIPT CHARACTER-", [(0x18B00, 0x18CD5)]),
  ("NUSHU CHARACTER-", [(0x1B170, 0x1B2FB)])]

def numbered? (name : List Char) : Option Nat :=
  numberedRanges.findSome? fun (beginning, ranges) => do
    let digits ← behind? beginning name
    let n ← codeDigits? digits
    if inRanges ranges n && digits.head? != some '0' then some n else none

/-! ## Syllables -/

def leadNames : List String :=
  ["G", "GG", "N", "D", "DD", "R", "M", "B", "BB", "S", "SS", "", "J", "JJ", "C", "K", "T", "P", "H"]

def vowelNames : List String :=
  ["A", "AE", "YA", "YAE", "EO", "E", "YEO", "YE", "O", "WA", "WAE", "OE", "YO", "U", "WEO", "WE", "WI",
   "YU", "EU", "YI", "I"]

def trailNames : List String :=
  ["", "G", "GG", "GS", "N", "NJ", "NH", "D", "L", "LG", "LM", "LB", "LS", "LT", "LP", "LH", "M", "B",
   "BS", "S", "SS", "NG", "J", "C", "K", "T", "P", "H"]

/-- The longest of some names at the front, by its place among them, and what follows it. -/
def longestAt (names : List String) (cs : List Char) : Option (Nat × List Char) :=
  let fitting := names.zipIdx.filter fun (n, _) => n.toList.isPrefixOf cs
  let best := fitting.foldl (fun best (n, i) =>
    match best with
    | some (m, j) => if m.length < n.length then some (n, i) else some (m, j)
    | none => some (n, i)) (none : Option (String × Nat))
  best.map fun (n, i) => (i, cs.drop n.length)

def syllable? (name : List Char) : Option Nat := do
  let cs ← behind? "HANGUL SYLLABLE " name
  let (lead, cs) ← longestAt leadNames cs
  let (vowel, cs) ← longestAt vowelNames cs
  let (trail, cs) ← longestAt trailNames cs
  if cs.isEmpty then some (0xAC00 + (lead * 21 + vowel) * 28 + trail) else none

/-! ## All names -/

def upper (c : Char) : Char :=
  if 'a' ≤ c && c ≤ 'z' then Char.ofNat (c.toNat - 32) else c

/-- The code point that a name stands for. -/
def code? (name : List Char) : Option Nat :=
  let shown := name.map upper
  (syllable? name).or ((ideograph? name).or ((numbered? shown).or (listed? shown)))

end ApiJourney.Text.CharacterName
