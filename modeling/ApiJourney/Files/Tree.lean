-- SUMMARY: A tree of files and folders in memory, as a disk.
import ApiJourney.Files.Disk
import ApiJourney.Yaml.Document

/-!
# Trees of files

A tree holds files and folders, each under its names from the root. Relative paths start at the
working folder. A path leads on only through folders, also where it goes back by two points. A
name takes at most 255 bytes, and there are no links.
-/

namespace ApiJourney.Files

open ApiJourney.Text

structure Tree where
  /-- The working folder. -/
  work : Path
  /-- Files with their bytes, or with the reason why they cannot be read. -/
  files : List (List String × Except Fault (List UInt8))
  folders : List (List String)

namespace Tree

def isFolderAt (t : Tree) (names : List String) : Bool :=
  (t.work.names :: t.folders).any (names.isPrefixOf ·)
    || t.files.any fun (f, _) => names.isPrefixOf f && names != f

def isTooLong (name : String) : Bool :=
  255 < (Utf8.encode name).length

/-- Where names lead to from a place; a name that is not there may only be the last. -/
def follow (t : Tree) (place : List String) : List String → Except Fault (Option (List String))
  | [] => .ok (some place)
  | n :: rest =>
    if !t.isFolderAt place then .ok none
    else if isTooLong n then .error .system
    else follow t (if n == ".." then place.dropLast else place ++ [n]) rest

/-- The place of a path, whether or not anything is there. -/
def place? (t : Tree) (p : Path) : Except Fault (Option (List String)) :=
  t.follow (if p.isAbsolute then [] else t.work.names) p.names

/-- The file at a path, if there is one. -/
def file? (t : Tree) (p : Path) : Except Fault (Option (Except Fault (List UInt8))) :=
  (t.place? p).map fun place => place.bind fun names => t.files.lookup names

/-- The names right in a folder. -/
def namesAt (t : Tree) (place : List String) : List String :=
  (t.files.map Prod.fst ++ t.folders).filterMap fun f =>
    if f.dropLast == place then f.getLast? else none

def read (t : Tree) (p : Path) : Except Fault (List UInt8) := do
  match ← t.file? p with
  | some file => file
  | none => .error .system

def names (t : Tree) (p : Path) : Except Fault (List String) := do
  match ← t.place? p with
  | some place => .ok (t.namesAt place)
  | none => .error .system

/-- A tree as a disk. -/
def disk (t : Tree) : Disk where
  work := t.work
  isFile p := (t.file? p).map Option.isSome
  isFolder p := (t.place? p).map fun place => place.any t.isFolderAt
  resolve p := .ok (t.work.resolve p)
  read := t.read
  names := t.names

/-- A tree whose documents in YAML are read. -/
def store (t : Tree) : Store :=
  { t.disk with yaml := Yaml.read }

/-! ## Writing -/

/-- A file put into the working folder, over one of the same name; a name that ends in a
    slash makes a folder. -/
def write (t : Tree) (name : String) (bytes : List UInt8) : Tree :=
  let place := (t.work.resolve (.ofText name)).names
  if name.toList.getLast? == some '/' then { t with folders := t.folders ++ [place] }
  else { t with files := t.files.filter (fun (f, _) => f != place) ++ [(place, .ok bytes)] }

/-! ## Findings -/

/-- The folders on the way to a path. -/
def foldersOn (t : Tree) (p : Path) : List (List String) :=
  let names := (t.work.below p).names
  (List.range names.length).map fun n => Path.walk [] (names.take n)

/-- A file that was found at a path; all folders on the way are there. -/
def addFile (t : Tree) (p : Path) (file : Except Fault (List UInt8)) : Tree :=
  let place := (t.work.resolve p).names
  { t with
    files := t.files.filter (fun (f, _) => f != place) ++ [(place, file)]
    folders := t.folders ++ t.foldersOn p }

/-- A folder that was found at a path. -/
def addFolder (t : Tree) (p : Path) : Tree :=
  { t with folders := t.folders ++ t.foldersOn p ++ [(t.work.resolve p).names] }

end Tree

end ApiJourney.Files
