-- SUMMARY: Searching, counting, replacing and splitting in texts.
import ApiJourney.Text.Blank

/-!
# Searching texts

Occurrences of a piece are looked for from the left and do not overlap. The
empty piece occurs before every character and at the end. A limit bounds how
many occurrences are replaced or split at; without one all are.
-/

namespace ApiJourney.Text

/-- One less, if there is a limit. -/
def oneLess (limit : Option Nat) : Option Nat :=
  limit.map (· - 1)

/-! ## Counting and finding -/

/-- Occurrences of a non-empty piece; the next `skip` characters belong to the last one. -/
def countFrom (piece : List Char) (skip : Nat) : List Char → Nat
  | [] => 0
  | c :: rest =>
    match skip with
    | skip + 1 => countFrom piece skip rest
    | 0 =>
      if piece.isPrefixOf (c :: rest) then countFrom piece (piece.length - 1) rest + 1
      else countFrom piece 0 rest

def count (piece cs : List Char) : Nat :=
  if piece.isEmpty then cs.length + 1 else countFrom piece 0 cs

/-- The position of the first occurrence. -/
def find? (piece : List Char) : List Char → Option Nat
  | [] => if piece.isEmpty then some 0 else none
  | c :: rest => if piece.isPrefixOf (c :: rest) then some 0 else (find? piece rest).map (· + 1)

/-! ## Replacing -/

def replaceFrom (old new : List Char) (skip : Nat) (limit : Option Nat) : List Char → List Char
  | [] => []
  | c :: rest =>
    match skip with
    | skip + 1 => replaceFrom old new skip limit rest
    | 0 =>
      if limit != some 0 && old.isPrefixOf (c :: rest) then
        new ++ replaceFrom old new (old.length - 1) (oneLess limit) rest
      else c :: replaceFrom old new 0 limit rest

/-- `new` before every character and at the end. -/
def interleave (new : List Char) (limit : Option Nat) : List Char → List Char
  | [] => if limit == some 0 then [] else new
  | c :: rest =>
    if limit == some 0 then c :: rest else new ++ c :: interleave new (oneLess limit) rest

def replace (old new : List Char) (limit : Option Nat) (cs : List Char) : List Char :=
  if old.isEmpty then interleave new limit cs else replaceFrom old new 0 limit cs

/-! ## Splitting -/

def splitFrom (sep : List Char) (skip : Nat) (limit : Option Nat) (part : List Char) :
    List Char → List (List Char)
  | [] => [part.reverse]
  | c :: rest =>
    match skip with
    | skip + 1 => splitFrom sep skip limit part rest
    | 0 =>
      if limit != some 0 && sep.isPrefixOf (c :: rest) then
        part.reverse :: splitFrom sep (sep.length - 1) (oneLess limit) [] rest
      else splitFrom sep 0 limit (c :: part) rest

/-- The parts between occurrences of a non-empty separator. -/
def split (sep : List Char) (limit : Option Nat) (cs : List Char) : List (List Char) :=
  splitFrom sep 0 limit [] cs

/-- As `split`, with occurrences looked for from the right. -/
def splitRight (sep : List Char) (limit : Option Nat) (cs : List Char) : List (List Char) :=
  ((split sep.reverse limit cs.reverse).map List.reverse).reverse

/-- The words between blanks. What is left at the limit keeps its trailing blanks. -/
def wordsFrom : Nat → Option Nat → List Char → List (List Char)
  | 0, _, _ => []
  | fuel + 1, limit, cs =>
    match trimStart cs with
    | [] => []
    | c :: rest =>
      if limit == some 0 then [c :: rest]
      else
        let word := (c :: rest).takeWhile (!isBlank ·)
        word :: wordsFrom fuel (oneLess limit) ((c :: rest).dropWhile (!isBlank ·))

def words (limit : Option Nat) (cs : List Char) : List (List Char) :=
  wordsFrom (cs.length + 1) limit cs

/-- As `words`, from the right. -/
def wordsRight (limit : Option Nat) (cs : List Char) : List (List Char) :=
  ((words limit cs.reverse).map List.reverse).reverse

/-! ## Windows -/

/-- A bound counted from the end when negative, and not before the start. -/
def fromEnd (length : Nat) (bound : Int) : Nat :=
  (if bound < 0 then bound + length else bound).toNat

/-- The window between two bounds; none when it starts behind its end. -/
def window? (cs : List α) (start stop : Option Int) : Option (Nat × List α) :=
  let first := (start.map (fromEnd cs.length)).getD 0
  let last := min cs.length ((stop.map (fromEnd cs.length)).getD cs.length)
  if last < first then none else some (first, (cs.take last).drop first)

def isSuffixOf (piece cs : List Char) : Bool :=
  piece.reverse.isPrefixOf cs.reverse

/-- At least `width` characters, zeros filled in behind the sign. -/
def zeroFill (width : Nat) (cs : List Char) : List Char :=
  let zeros := List.replicate (width - cs.length) '0'
  match cs with
  | c :: rest =>
    if c == '+' || c == '-' then c :: (zeros ++ rest) else zeros ++ c :: rest
  | [] => zeros

end ApiJourney.Text
