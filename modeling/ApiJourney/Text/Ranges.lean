-- SUMMARY: Tables of code points as ranges, as runs of equal shift, and as listings.
import ApiJourney.Text.Search

/-!
# Tables of code points

A class of characters is a list of closed ranges. A mapping of characters is a
list of runs: every `stride`-th code point from `first` to `last` moves by
`shift`. A listing is a table in one text: rows end at semicolons, and a row is
numbers in hexadecimal digits with a space between two of them. Line ends only
keep lines short.
-/

namespace ApiJourney.Text

def inRanges (ranges : List (Nat × Nat)) (n : Nat) : Bool :=
  ranges.any fun r => r.1 ≤ n && n ≤ r.2

structure CaseRun where
  first : Nat
  last : Nat
  stride : Nat
  shift : Int

def CaseRun.covers (r : CaseRun) (n : Nat) : Bool :=
  r.first ≤ n && n ≤ r.last && (n - r.first) % r.stride == 0

/-- The code point that `n` moves to; one that no run covers stays. -/
def shiftBy (runs : List CaseRun) (n : Nat) : Nat :=
  match runs.find? (·.covers n) with
  | some r => (n + r.shift : Int).toNat
  | none => n

/-! ## Listings -/

def hexDigit (c : Char) : Nat :=
  if c.toNat < 58 then c.toNat - 48 else c.toNat - 55

/-- The number that hexadecimal digits, upper case, stand for. -/
def hexNumber (cs : List Char) : Nat :=
  cs.foldl (fun n c => n * 16 + hexDigit c) 0

/-- A text in one line. -/
def unbroken (listing : String) : List Char :=
  listing.toList.filter (· != '\n')

/-- The rows of a listing. -/
def rows (listing : String) : List (List Nat) :=
  (split [';'] none (unbroken listing)).map fun row => (split [' '] none row).map hexNumber

end ApiJourney.Text
