-- SUMMARY: Resolving URL references against a base.
import ApiJourney.Url.Reference

/-!
# Resolution

A reference is resolved against a base: it takes over what it does not name, and
its path starts at the last slash of the base's path. A segment `..` takes back the
segment before it, as far as there is one. References with a scheme of their own
stay as they are.
-/

namespace ApiJourney.Url

open ApiJourney.Text

/-! ## Paths -/

def dot : List Char := ['.']
def dots : List Char := ['.', '.']

/-- Segments with those of one and two points worked out; the stack holds what is kept. -/
def walk (kept : List (List Char)) : List (List Char) → List (List Char)
  | [] => kept.reverse
  | s :: rest =>
    if s == dots then walk kept.tail rest
    else if s == dot then walk kept rest
    else walk (s :: kept) rest

/-- A list without empty members between the first and the last one. -/
def compactInner : List (List Char) → List (List Char)
  | [] => []
  | s :: rest => s :: (rest.dropLast.filter (!·.isEmpty) ++ rest.getLast?.toList)

/-- The segments of a path, behind those of the base unless it is rooted. -/
def segments (base path : List Char) : List (List Char) :=
  let own := split ['/'] none path
  if path.head? == some '/' then own
  else
    let inherited := split ['/'] none base
    let folder := if inherited.getLast? == some [] then inherited else inherited.dropLast
    compactInner (folder ++ own)

/-- A path resolved against the path of the base. -/
def resolvePath (base path : List Char) : List Char :=
  let ss := segments base path
  let kept := walk [] ss
  let open_ := ss.getLast? == some dot || ss.getLast? == some dots
  let joined := ['/'].intercalate (if open_ then kept ++ [[]] else kept)
  if joined.isEmpty then ['/'] else joined

/-! ## References -/

/-- A reference of the same scheme, resolved. -/
def Reference.resolve (base r : Reference) : Reference :=
  if r.path.isEmpty && r.params.isEmpty then
    { r with
      path := base.path
      params := base.params
      query := if r.query.isEmpty then base.query else r.query }
  else { r with path := resolvePath base.path r.path }

/-- A reference resolved against a base, neither of them empty. -/
def resolve (base reference : List Char) : Except Fault (List Char) := do
  if base.isEmpty then return reference
  if reference.isEmpty then return base
  let b ← Reference.ofText [] base
  let r ← Reference.ofText b.scheme reference
  if r.scheme != b.scheme || !among relativeSchemes r.scheme then return reference
  if among hostSchemes r.scheme then
    if !r.host.isEmpty then return r.write
    return (b.resolve { r with host := b.host }).write
  return (b.resolve r).write

/-! ## Joining -/

/-- Whether a text starts with a scheme and `://`. -/
def isAbsolute (cs : List Char) : Bool :=
  match cs with
  | c :: rest =>
    isAsciiLetter c && "://".toList.isPrefixOf (rest.dropWhile isSchemeChar)
  | [] => false

/-- A URL below a base: the base counts as a folder and the URL as relative to it. An
    absolute URL stays. -/
def join (base url : List Char) : Except Fault (List Char) :=
  if base.isEmpty || isAbsolute url then .ok url
  else resolve (dropEndWhile (· == '/') base ++ ['/']) (url.dropWhile (· == '/'))

end ApiJourney.Url
