-- SUMMARY: Disks of files as programs see them, and the texts and documents of files.
import ApiJourney.Failure
import ApiJourney.Files.Path
import ApiJourney.Json.Reader
import ApiJourney.Text.Case
import ApiJourney.Text.Utf8

/-!
# Disks

A disk answers what is at a path. It may fail to answer, as where a folder is closed or a name is
too long, and a file that is there may be closed too. Nothing on it changes while a program looks
at it.

A document on it is a JSON or a YAML file; the suffix of its name tells which.
-/

namespace ApiJourney.Files

open ApiJourney.Text

structure Disk where
  /-- The working folder. -/
  work : Path
  isFile : Path → Except Fault Bool
  isFolder : Path → Except Fault Bool
  /-- A path made absolute, its points and links worked out. -/
  resolve : Path → Except Fault Path
  read : Path → Except Fault (List UInt8)
  /-- The names in a folder. -/
  names : Path → Except Fault (List String)

/-- A disk, with a reader for the documents in YAML on it. -/
structure Store extends Disk where
  yaml : List Char → Except Fault Value

/-- The first of some paths where a file is. -/
def Disk.firstFile? (d : Disk) : List Path → Except Fault (Option Path)
  | [] => .ok none
  | path :: rest => do
    if ← d.isFile path then .ok (some path) else d.firstFile? rest

/-! ## Texts -/

/-- Every line break becomes a line feed. -/
def unifyBreaks : List Char → List Char
  | [] => []
  | '\r' :: '\n' :: rest => '\n' :: unifyBreaks rest
  | c :: rest => (if c == '\r' then '\n' else c) :: unifyBreaks rest

/-- The text of bytes, its line breaks unified; bytes that are no UTF-8 are a fault. -/
def textOf (bytes : List UInt8) : Except Fault (List Char) :=
  match Utf8.decode? bytes with
  | some cs => .ok (unifyBreaks cs)
  | none => .error .undecodable

/-! ## Documents -/

inductive Format where
  | json
  | yaml
  deriving DecidableEq

/-- The format that a suffix stands for, its letters in lower case. -/
def Format.ofSuffix? (suffix : String) : Option Format :=
  if suffix == ".yaml" || suffix == ".yml" then some .yaml
  else if suffix == ".json" then some .json
  else none

namespace Store

def parse (s : Store) : Format → List Char → Except Fault Value
  | .json => Json.read
  | .yaml => s.yaml

/-- The document that a text at a path is. -/
def documentOf (s : Store) (path : Path) (cs : List Char) : Attempt Value :=
  let suffix := lowered path.suffix
  match Format.ofSuffix? suffix with
  | none => .error (.document (.unknownFormat suffix path.text))
  | some format =>
    match s.parse format cs with
    | .ok v => .ok v
    | .error .malformed => .error (.document (.unparsable path.text))
    | .error f => .error (.fault f)

/-- The document at a path. Its bytes must be a text, whatever its suffix. -/
def document (s : Store) (path : Path) : Attempt Value := do
  if ← orFault (s.isFile path) then
    let bytes ← orFault (s.read path)
    let cs ← orFault (textOf bytes)
    s.documentOf path cs
  else .error (.missingFile path.text)

end Store

end ApiJourney.Files
