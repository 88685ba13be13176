-- SUMMARY: Paths of files.

/-!
# Paths

A path is a root (none for a relative path) and the names on the way. Single points
and doubled slashes do not count; two points do, as they may leave a link.
-/

namespace ApiJourney.Files

structure Path where
  /-- Empty for a relative path. -/
  root : String
  names : List String
  deriving DecidableEq

namespace Path

/-- The names between slashes that lead somewhere. -/
def namesOf (cs : List Char) : List String :=
  ((cs.splitOn '/').map String.ofList).filter fun n => n != "" && n != "."

/-- The root that a text starts with; exactly two slashes are a root of their own. -/
def rootOf (cs : List Char) : String :=
  match (cs.takeWhile (· == '/')).length with
  | 0 => ""
  | 2 => "//"
  | _ => "/"

def ofText (s : String) : Path :=
  ⟨rootOf s.toList, namesOf s.toList⟩

def text (p : Path) : String :=
  if p.root == "" && p.names.isEmpty then "." else p.root ++ String.intercalate "/" p.names

def isAbsolute (p : Path) : Bool :=
  p.root != ""

/-- A path below another one; an absolute path stays. -/
def below (folder p : Path) : Path :=
  if p.isAbsolute then p else { folder with names := folder.names ++ p.names }

def parent (p : Path) : Path :=
  { p with names := p.names.dropLast }

/-- The last name, empty when there is none. -/
def name (p : Path) : String :=
  p.names.getLast?.getD ""

/-- The last point of the name and what follows it, if the point is neither the first nor the
    last character. -/
def suffix (p : Path) : String :=
  let cs := p.name.toList
  let tail := (cs.reverse.takeWhile (· != '.')).reverse
  if tail.isEmpty || cs.length ≤ tail.length + 1 then "" else String.ofList ('.' :: tail)

/-- The names with those of two points worked out; the stack holds what is kept. -/
def walk (kept : List String) : List String → List String
  | [] => kept.reverse
  | n :: rest => if n == ".." then walk kept.tail rest else walk (n :: kept) rest

/-- A path made absolute, seen from a folder, without points. -/
def resolve (folder p : Path) : Path :=
  let whole := folder.below p
  { whole with names := walk [] whole.names }

end Path

end ApiJourney.Files
