-- SUMMARY: Lower, upper, title and capitalised forms of a text.
import ApiJourney.Text.Case.Table

/-!
# Case

Case mappings of whole texts. A mapping may give several characters, and the
lower-case form of a capital sigma depends on its neighbours: it is the final
form at the end of a word.
-/

namespace ApiJourney.Text

def lowerChar (c : Char) : Char :=
  if c.toNat < 128 then
    if 'A' ≤ c && c ≤ 'Z' then Char.ofNat (c.toNat + 32) else c
  else Char.ofNat (shiftBy lowerRuns c.toNat)

def upperChar (c : Char) : Char :=
  if c.toNat < 128 then
    if 'a' ≤ c && c ≤ 'z' then Char.ofNat (c.toNat - 32) else c
  else Char.ofNat (shiftBy upperRuns c.toNat)

def expansion? (table : List (Nat × List Nat)) (c : Char) : Option (List Char) :=
  (table.lookup c.toNat).map (·.map Char.ofNat)

def upperOf (c : Char) : List Char :=
  if c.toNat < 128 then [upperChar c]
  else (expansion? upperExpansions c).getD [upperChar c]

def titleOf (c : Char) : List Char :=
  if c.toNat < 128 then [upperChar c]
  else ((expansion? titleForms c).orElse fun _ => expansion? upperExpansions c).getD [upperChar c]

def isCased (c : Char) : Bool :=
  if c.toNat < 128 then ('a' ≤ c && c ≤ 'z') || ('A' ≤ c && c ≤ 'Z')
  else inRanges casedRanges c.toNat

def isCaseIgnorable (c : Char) : Bool :=
  if c.toNat < 128 then c == '\'' || c == '.' || c == ':' || c == '^' || c.toNat == 96
  else inRanges caseIgnorableRanges c.toNat

/-! ## Lower case in context -/

def nextIsCased (cs : List Char) : Bool :=
  match cs.dropWhile isCaseIgnorable with
  | [] => false
  | c :: _ => isCased c

/-- The lower-case form of `c`, where `before` is the text before it, last
    character first, and `after` the text behind it. -/
def lowerIn (before : List Char) (c : Char) (after : List Char) : List Char :=
  if c.toNat = 0x3A3 then
    [Char.ofNat (if nextIsCased before && !nextIsCased after then 0x3C2 else 0x3C3)]
  else if c.toNat = 0x130 then ['i', Char.ofNat 0x307]
  else [lowerChar c]

def lowerAfter (before : List Char) : List Char → List Char
  | [] => []
  | c :: rest => lowerIn before c rest ++ lowerAfter (c :: before) rest

def lower (cs : List Char) : List Char :=
  lowerAfter [] cs

def upper (cs : List Char) : List Char :=
  cs.flatMap upperOf

/-- Title case: the first cased character of each run of cased ones is raised. -/
def titleAfter (before : List Char) : List Char → List Char
  | [] => []
  | c :: rest =>
    (if (before.head?.map isCased).getD false then lowerIn before c rest else titleOf c)
      ++ titleAfter (c :: before) rest

def title (cs : List Char) : List Char :=
  titleAfter [] cs

def capitalize : List Char → List Char
  | [] => []
  | c :: rest => titleOf c ++ lowerAfter [c] rest

/-- The form under which header names are compared. -/
def lowered (s : String) : String :=
  String.ofList (lower s.toList)

end ApiJourney.Text
