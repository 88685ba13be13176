-- SUMMARY: Which characters are the same when case is ignored.
import ApiJourney.Text.Case
import ApiJourney.Text.Utf8

/-!
# Case folding

Two characters are the same without regard to case when their lower-case forms
are, or when these share an upper-case form.
-/

namespace ApiJourney.Pattern

open ApiJourney.Text

/-- Lower-case letters, with the other ones that have the same upper-case form. -/
def relatives : List (Nat × List Nat) := [
  (0x69, [0x131]), (0x73, [0x17F]), (0xB5, [0x3BC]), (0x131, [0x69]), (0x17F, [0x73]),
  (0x345, [0x3B9, 0x1FBE]), (0x390, [0x1FD3]), (0x3B0, [0x1FE3]), (0x3B2, [0x3D0]),
  (0x3B5, [0x3F5]), (0x3B8, [0x3D1]), (0x3B9, [0x345, 0x1FBE]), (0x3BA, [0x3F0]), (0x3BC, [0xB5]),
  (0x3C0, [0x3D6]), (0x3C1, [0x3F1]), (0x3C2, [0x3C3]), (0x3C3, [0x3C2]), (0x3C6, [0x3D5]),
  (0x3D0, [0x3B2]), (0x3D1, [0x3B8]), (0x3D5, [0x3C6]), (0x3D6, [0x3C0]), (0x3F0, [0x3BA]),
  (0x3F1, [0x3C1]), (0x3F5, [0x3B5]), (0x432, [0x1C80]), (0x434, [0x1C81]), (0x43E, [0x1C82]),
  (0x441, [0x1C83]), (0x442, [0x1C84, 0x1C85]), (0x44A, [0x1C86]), (0x463, [0x1C87]),
  (0x1C80, [0x432]), (0x1C81, [0x434]), (0x1C82, [0x43E]), (0x1C83, [0x441]),
  (0x1C84, [0x442, 0x1C85]), (0x1C85, [0x442, 0x1C84]), (0x1C86, [0x44A]), (0x1C87, [0x463]),
  (0x1C88, [0xA64B]), (0x1E61, [0x1E9B]), (0x1E9B, [0x1E61]), (0x1FBE, [0x345, 0x3B9]),
  (0x1FD3, [0x390]), (0x1FE3, [0x3B0]), (0xA64B, [0x1C88]), (0xFB05, [0xFB06]), (0xFB06, [0xFB05])]

/-- Which letters have a case: those of all scripts, or those of ASCII. -/
structure Casing where
  ascii : Bool

def isAsciiUpper (c : Char) : Bool := 'A' ≤ c && c ≤ 'Z'

def Casing.lower (k : Casing) (c : Char) : Char :=
  if k.ascii then
    if isAsciiUpper c then Char.ofNat (c.toNat + 32) else c
  else if c.toNat = 0x130 then 'i' else lowerChar c

/-- The first character of the upper-case form. -/
def raised (c : Char) : Char :=
  ((upperOf c).head?).getD c

/-- The lower-case letters, given one, that are the same as it. -/
def Casing.family (k : Casing) (lower : Char) : List Char :=
  if k.ascii then [lower]
  else lower :: ((relatives.lookup lower.toNat).getD []).map Char.ofNat

/-! ## Ranges -/

/-- Sorted numbers as closed ranges. -/
def rangesOf : List Nat → List (Nat × Nat)
  | [] => []
  | n :: rest =>
    match rangesOf rest with
    | [] => [(n, n)]
    | (low, high) :: more =>
      if n == low then (low, high) :: more
      else if n + 1 == low then (n, high) :: more
      else (n, n) :: (low, high) :: more

/-- The lower-case letters that are the same as a character of a range. -/
def Casing.foldRange (k : Casing) (low high : Nat) : List (Nat × Nat) :=
  let codes := (List.range (high + 1 - low)).flatMap fun i =>
    (k.family (k.lower (ofCode (low + i)))).map codeOf
  rangesOf codes.mergeSort

end ApiJourney.Pattern
