-- SUMMARY: The normal form of identifiers.
import ApiJourney.Text.Ranges
import ApiJourney.Text.Normal.Table

/-!
# Normal form

Characters that look alike or are made of others have one normal form: each is taken apart as
far as possible, marks that combine are put in the order of their ranks, and what can be
joined is joined again. Syllables of Hangul are taken apart and joined by arithmetic.
-/

namespace ApiJourney.Text

/-! ## Hangul -/

def firstSyllable : Nat := 0xAC00
def firstLead : Nat := 0x1100
def firstVowel : Nat := 0x1161
/-- One before the first trailing consonant. -/
def noTrail : Nat := 0x11A7

def leads : Nat := 19
def vowels : Nat := 21
/-- Trailing consonants, and none. -/
def trails : Nat := 28

/-- The letters of a syllable. -/
def syllableParts? (n : Nat) : Option (List Nat) :=
  let i := n - firstSyllable
  if n < firstSyllable || leads * vowels * trails ≤ i then none
  else
    let lead := firstLead + i / (vowels * trails)
    let vowel := firstVowel + i / trails % vowels
    let trail := i % trails
    some (if trail = 0 then [lead, vowel] else [lead, vowel, noTrail + trail])

/-- A lead and a vowel, or a syllable without a trailing consonant and one, joined. -/
def syllable? (a b : Nat) : Option Nat :=
  if firstLead ≤ a && a < firstLead + leads && firstVowel ≤ b && b < firstVowel + vowels then
    some (firstSyllable + ((a - firstLead) * vowels + (b - firstVowel)) * trails)
  else if firstSyllable ≤ a && a < firstSyllable + leads * vowels * trails
      && (a - firstSyllable) % trails == 0 && noTrail < b && b < noTrail + trails then
    some (a + (b - noTrail))
  else none

/-! ## Tables -/

/-- What the row of a range, given by its first and last number, has for a number in it. -/
def inRow? (n : Nat) : List Nat → Option (Nat × Nat)
  | [first, last, value] => if first ≤ n && n ≤ last then some (n - first, value) else none
  | _ => none

/-- What a code point is made of. -/
def parts (n : Nat) : List Nat :=
  match syllableParts? n with
  | some ps => ps
  | none =>
    match (rows movedListing).findSome? (inRow? n) with
    | some (distance, first) => [first + distance]
    | none =>
      match (rows splitListing).find? (·.head? == some n) with
      | some row => row.tail
      | none => [n]

/-- The rank of a mark that combines; zero for what starts anew. -/
def rank (n : Nat) : Nat :=
  (((rows rankListing).findSome? (inRow? n)).map Prod.snd).getD 0

/-- Two code points joined into one. -/
def joined? (a b : Nat) : Option Nat :=
  (syllable? a b).or <| (rows pairListing).findSome? fun
    | [x, y, z] => if x == a && y == b then some z else none
    | _ => none

/-! ## Order -/

/-- A code point with its rank. -/
structure Ranked where
  code : Nat
  rank : Nat

/-- A code point put behind others, the last one first: a mark goes before those of a higher
    rank, up to what starts anew. -/
def place (m : Ranked) : List Ranked → List Ranked
  | [] => [m]
  | p :: rest => if m.rank ≠ 0 && m.rank < p.rank then p :: place m rest else m :: p :: rest

def inOrder (ms : List Ranked) : List Ranked :=
  (ms.foldl (fun placed m => place m placed) []).reverse

/-! ## Joining -/

/-- Joins what follows a start, whose marks so far, the last one first, did not join with it.
    A mark is cut off from the start by one of the same or a higher rank. -/
def joinBehind (start : Nat) (marks : List Ranked) : List Ranked → List Nat
  | [] => start :: (marks.map Ranked.code).reverse
  | m :: rest =>
    let reaches := match marks with
      | [] => true
      | last :: _ => last.rank < m.rank
    match if reaches then joined? start m.code else none with
    | some both => joinBehind both marks rest
    | none =>
      if m.rank = 0 then start :: (marks.map Ranked.code).reverse ++ joinBehind m.code [] rest
      else joinBehind start (m :: marks) rest

def joinAll : List Ranked → List Nat
  | [] => []
  | m :: rest => if m.rank = 0 then joinBehind m.code [] rest else m.code :: joinAll rest

/-! ## Normal form -/

/-- The normal form of characters that may stand in an identifier. -/
def normalForm (cs : List Char) : List Char :=
  if cs.all (·.toNat < 128) then cs
  else
    let ps := cs.flatMap fun c => parts c.toNat
    (joinAll (inOrder (ps.map fun n => ⟨n, rank n⟩))).map Char.ofNat

end ApiJourney.Text
