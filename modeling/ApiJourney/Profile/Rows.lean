-- SUMMARY: Data rows of profiles from files.
import ApiJourney.Csv.Reader
import ApiJourney.Failure
import ApiJourney.Files.Disk
import ApiJourney.Json.Reader
import ApiJourney.Text.Case

/-!
# Data rows

A source of data rows is a file: comma-separated values with the names of the columns in
the first record, or a JSON object or list of objects. Names and cells are trimmed, cells
that are missing are empty, and records without any text are left out.
-/

namespace ApiJourney.Rows

open ApiJourney.Text ApiJourney.Files

/-! ## Comma-separated values -/

/-- The cells of a record under the names of their columns. -/
def fill (row : Entries) : List (List Char) → List (List Char) → Entries
  | [], _ => row
  | name :: names, [] => fill (row.put (String.ofList name) (.text "")) names []
  | name :: names, cell :: cells =>
    fill (row.put (String.ofList name) (.text (String.ofList (trim cell)))) names cells

/-- The rows of the records behind the names of the columns. -/
def ofRecords (names : List (List Char)) (records : List (List (List Char))) : List Entries :=
  (((records.filter fun r => !r.isEmpty).map (fill [] names)).filter
    fun row => row.any fun (_, v) => v.truthy)

/-- A text without a byte order mark in front. -/
def withoutMark : List Char → List Char
  | c :: rest => if c.toNat = 0xFEFF then rest else c :: rest
  | [] => []

def ofCsv? (bytes : List UInt8) : Option (List Entries) := do
  let cs ← Utf8.decode? bytes
  match ← Csv.records? (withoutMark cs) with
  | [] => some []
  | names :: records => some (ofRecords (names.map trim) records)

/-! ## JSON -/

def object? : Value → Option Entries
  | .dict es => some es
  | _ => none

/-- An object is one row; a list must hold objects only. -/
def ofValue? : Value → Option (List Entries)
  | .dict es => some [es]
  | .list xs => xs.mapM object?
  | _ => none

def ofJson (path : String) (bytes : List UInt8) : Attempt (List Entries) :=
  match textOf bytes with
  | .error _ => .error (.source (.unreadable path))
  | .ok cs =>
    match Json.read cs with
    | .error .malformed => .error (.source (.badJson path))
    | .error f => .error (.fault f)
    | .ok v =>
      match ofValue? v with
      | some rows => .ok rows
      | none => .error (.source (.noRows path))

/-! ## Sources -/

/-- The bytes of a source; the system may not hand them out. -/
def bytesAt (disk : Disk) (path : Path) : Attempt (List UInt8) :=
  (disk.read path).mapError fun f =>
    if f.isSystem then .source (.unreadable path.text) else .fault f

/-- The rows of the source at a path, in the format that its suffix tells. -/
def loadAt (disk : Disk) (path : Path) : Attempt (List Entries) :=
  let suffix := lowered path.suffix
  if suffix == ".csv" then do
    let bytes ← bytesAt disk path
    match ofCsv? bytes with
    | some rows => .ok rows
    | none => .error (.source (.unreadable path.text))
  else if suffix == ".json" then do
    let bytes ← bytesAt disk path
    ofJson path.text bytes
  else .error (.source (.unknownFormat path.text))

/-- The rows of a source, looked for below a folder. -/
def load (disk : Disk) (folder : Path) (source : String) : Attempt (List Entries) := do
  let path := folder.below (.ofText source)
  if ← orFault (disk.isFile path) then loadAt disk path
  else .error (.source (.notFound path.text))

end ApiJourney.Rows
