-- SUMMARY: Records of comma-separated texts.

/-!
# Comma-separated values

A record is a line of cells with commas between them. A cell that starts with a quote
goes on to the closing quote, over commas and line breaks, and a quote inside of it is
written twice; what follows the closing quote is taken as it is. Spaces in front of a
cell do not count. A line with nothing on it is a record without cells.
-/

namespace ApiJourney.Csv

/-- The most characters that a cell may have. -/
def maxCell : Nat := 131072

/-- Where the reader stands. -/
inductive Position where
  | recordStart
  | cellStart
  | plain
  | quoted
  /-- Behind a quote inside of a quoted cell. -/
  | afterQuote
  /-- Behind a carriage return that ended a record. -/
  | afterReturn
  deriving DecidableEq

/-- What was read: the position, the cell under way and its length, the cells of the record
    under way, and the records before it, all in reverse. -/
structure Reading where
  position : Position
  cell : List Char
  size : Nat
  cells : List (List Char)
  records : List (List (List Char))

namespace Reading

def start : Reading := ⟨.recordStart, [], 0, [], []⟩

def endCell (r : Reading) (next : Position) : Reading :=
  { r with position := next, cell := [], size := 0, cells := r.cell.reverse :: r.cells }

def endRecord (r : Reading) (next : Position) : Reading :=
  { r with position := next, cells := [], records := r.cells.reverse :: r.records }

/-- A character added to the cell under way, none when there is no room. -/
def add? (r : Reading) (next : Position) (c : Char) : Option Reading :=
  if maxCell ≤ r.size then none
  else some { r with position := next, cell := c :: r.cell, size := r.size + 1 }

def afterBreak (c : Char) : Position :=
  if c == '\r' then .afterReturn else .recordStart

def isBreak (c : Char) : Bool :=
  c == '\n' || c == '\r'

/-- A character outside of quotes: a comma ends the cell, a line break the record. -/
def outside (r : Reading) (c : Char) : Option Reading :=
  if isBreak c then some ((r.endCell .cellStart).endRecord (afterBreak c))
  else if c == ',' then some (r.endCell .cellStart)
  else r.add? .plain c

def atCellStart (r : Reading) (c : Char) : Option Reading :=
  if c == '"' then some { r with position := .quoted }
  else if c == ' ' then some { r with position := .cellStart }
  else r.outside c

def atRecordStart (r : Reading) (c : Char) : Option Reading :=
  if isBreak c then some (r.endRecord (afterBreak c)) else r.atCellStart c

/-- One character read. -/
def step (r : Reading) (c : Char) : Option Reading :=
  match r.position with
  | .recordStart => r.atRecordStart c
  | .afterReturn =>
    if c == '\n' then some { r with position := .recordStart } else r.atRecordStart c
  | .cellStart => r.atCellStart c
  | .plain => r.outside c
  | .quoted => if c == '"' then some { r with position := .afterQuote } else r.add? .quoted c
  | .afterQuote => if c == '"' then r.add? .quoted c else r.outside c

/-- All characters read; none when a cell is too long. -/
def steps (r : Reading) : List Char → Option Reading
  | [] => some r
  | c :: rest =>
    match r.step c with
    | some r => r.steps rest
    | none => none

/-- The records, with the one under way. -/
def finish (r : Reading) : List (List (List Char)) :=
  match r.position with
  | .recordStart => r.records.reverse
  | .afterReturn => r.records.reverse
  | _ => ((r.endCell .cellStart).endRecord .recordStart).records.reverse

end Reading

/-- The records of a text; none when a cell is too long. -/
def records? (cs : List Char) : Option (List (List (List Char))) :=
  (Reading.start.steps cs).map Reading.finish

end ApiJourney.Csv
