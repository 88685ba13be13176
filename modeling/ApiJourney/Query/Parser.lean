-- SUMMARY: Reading JSONPath queries.
import ApiJourney.Json.Reader
import ApiJourney.Query.Syntax

/-!
# Reading queries

A query starts at the root, written `$` or left out, and goes on with members
behind a point, brackets and descents. Positions in error messages count the
characters of the trimmed text. Filters are read at any depth: the depth at which a
run is out of stack, which is above `plainNesting`, is not modelled.
-/

namespace ApiJourney.Query

open ApiJourney.Text

abbrev Parsed (α : Type) := Except QueryFailure α

def refuse (e : QueryError) : Parsed α := .error (.error e)

/-! ## Pieces -/

def isNameChar (c : Char) : Bool :=
  c != '.' && c != '[' && c != ']'

def isQuote (c : Char) : Bool :=
  c == '\'' || c == '"'

/-- An optional minus sign and decimal digits of any script; one line end may follow. -/
def isIntegerText (cs : List Char) : Bool :=
  let body := match cs with
    | '-' :: rest => rest
    | rest => rest
  match body.dropWhile isDecimal with
  | [] => !body.isEmpty
  | ['\n'] => (body.head?.map isDecimal).getD false
  | _ => false

/-- The integer that an integer text stands for; too many digits are a fault. -/
def integerOf (cs : List Char) : Except Fault Int :=
  match Numeral.integer? 10 cs with
  | some n => .ok n
  | none => .error .badValue

def position (cs : List Char) : Parsed Int :=
  (integerOf cs).mapError .fault

/-- The parts between separators that stand outside of quotes, and the quote that
    is left open. -/
def splitUnquoted (separator : Char) : Option Char → List Char → List Char × List (List Char) × Option Char
  | quote, [] => ([], [], quote)
  | some q, c :: rest =>
    let (part, parts, q') := splitUnquoted separator (if c == q then none else some q) rest
    (c :: part, parts, q')
  | none, c :: rest =>
    if isQuote c then
      let (part, parts, q') := splitUnquoted separator (some c) rest
      (c :: part, parts, q')
    else if c == separator then
      let (part, parts, q') := splitUnquoted separator none rest
      ([], part :: parts, q')
    else
      let (part, parts, q') := splitUnquoted separator none rest
      (c :: part, parts, q')

/-- How the text behind an opening bracket ends. -/
inductive Closing where
  | closed (content rest : List Char)
  | unbalanced
  | unclosed

/-- Looks for the bracket that closes the innermost of `depth + 1` open ones. -/
def closing (quote : Option Char) (depth : Nat) (seen : List Char) : List Char → Closing
  | [] => .unclosed
  | c :: rest =>
    match quote with
    | some q => closing (if c == q then none else some q) depth (c :: seen) rest
    | none =>
      if isQuote c then closing (some c) depth (c :: seen) rest
      else if c == '[' || c == '(' then closing none (depth + 1) (c :: seen) rest
      else if c == ']' || c == ')' then
        match depth with
        | 0 => if c == ']' then .closed seen.reverse rest else .unbalanced
        | depth + 1 => closing none depth (c :: seen) rest
      else closing none depth (c :: seen) rest

/-- The text between a quote and the same quote at the end. -/
def unquoted? : List Char → Option (List Char)
  | q :: rest =>
    if isQuote q && rest.getLast? == some q then some rest.dropLast else none
  | [] => none

def splitOn (separator : Char) : List Char → List (List Char)
  | [] => [[]]
  | c :: rest =>
    if c == separator then [] :: splitOn separator rest
    else match splitOn separator rest with
      | [] => [[c]]
      | part :: parts => (c :: part) :: parts

/-! ## Literals and slices -/

/-- A literal in single quotes, or a JSON text. -/
def literal (cs : List Char) : Parsed Value :=
  let cs := trim cs
  match (if cs.head? == some '\'' then unquoted? cs else none) with
  | some t => .ok (.text (String.ofList t))
  | none =>
    match Json.read cs with
    | .ok v => .ok v
    | .error f => if f.isValue then refuse (.literal (String.ofList cs)) else .error (.fault f)

def sliceBound (path : String) (piece : List Char) : Parsed (Option Int) :=
  let piece := trim piece
  if piece.isEmpty then .ok none
  else if isIntegerText piece then (position piece).map some
  else refuse (.sliceBound (String.ofList piece) path)

def slice (path : String) (content : List Char) : Parsed Selector := do
  let pieces := splitOn ':' content
  if 3 < pieces.length then refuse (.slice (String.ofList content) path)
  else
    let bounds ← pieces.mapM (sliceBound path)
    let step := (bounds[2]?).join
    if step = some 0 then refuse (.zeroStep path)
    else .ok (.slice (bounds[0]?).join (bounds[1]?).join step)

def member (path : String) (content part : List Char) : Parsed Member :=
  let part := trim part
  match part with
  | [] => refuse (.emptyMember (String.ofList content) path)
  | c :: _ =>
    if isQuote c then .ok (.name (String.ofList ((unquoted? part).getD part)))
    else if isIntegerText part then (position part).map .index
    else .ok (.name (String.ofList part))

/-! ## Filters -/

/-- Characters of the relative path of a filter. -/
def isFilterPathChar (c : Char) : Bool :=
  c != '=' && c != '!' && c != '<' && c != '>' && !isBlank c

/-- The comparison signs, a sign before those that it starts with. -/
def comparisonSigns : List (List Char × Comparison) :=
  [("===".toList, .eq), ("!==".toList, .ne), ("==".toList, .eq), ("!=".toList, .ne),
   (">=".toList, .ge), ("<=".toList, .le), (">".toList, .gt), ("<".toList, .lt)]

/-- The comparison sign at the front that leaves something to compare with. -/
def comparison? (cs : List Char) : Option (Comparison × List Char) :=
  comparisonSigns.findSome? fun (sign, op) =>
    match Json.after? sign cs with
    | some (c :: rest) => some (op, c :: rest)
    | _ => none

/-- A filter expression taken apart: the relative path, and what is compared. -/
def filterParts? (cs : List Char) : Option (List Char × Option (Comparison × List Char)) :=
  match trimStart cs with
  | '@' :: rest =>
    let path := rest.takeWhile isFilterPathChar
    let rest := trimStart (rest.dropWhile isFilterPathChar)
    match comparison? rest with
    | some c => some (path, some c)
    | none => if rest.isEmpty then some (path, none) else none
  | _ => none

/-! ## Queries -/

def named (cs : List Char) : Selector :=
  .members [.name (String.ofList cs)]

mutual

/-- A whole query; `fuel` bounds its length and the nesting of filters. -/
def parseWith (fuel : Nat) (text : List Char) : Parsed Query :=
  let path := trim text
  match path with
  | [] => refuse .empty
  | '$' :: rest => selectors fuel (String.ofList path) 1 rest
  | c :: _ =>
    if c == '.' || c == '[' then selectors fuel (String.ofList path) 0 path
    else
      let name := path.takeWhile isNameChar
      if name.isEmpty then refuse (.unexpected c 0 (String.ofList path))
      else do
        let more ← selectors fuel (String.ofList path) name.length (path.dropWhile isNameChar)
        .ok (named name :: more)
termination_by (fuel, 2)

/-- The selectors from `pos` on. -/
def selectors (fuel : Nat) (path : String) (pos : Nat) (cs : List Char) : Parsed Query :=
  match fuel, cs with
  | _, [] => .ok []
  | 0, c :: _ => refuse (.unexpected c pos path)
  | fuel + 1, '.' :: '.' :: rest =>
    match rest with
    | [] => refuse (.descentWithoutSelector path)
    | '[' :: inner => bracketed fuel path (pos + 2) inner .descend
    | '*' :: rest => do
      let more ← selectors fuel path (pos + 3) rest
      .ok (.descend .wildcard :: more)
    | rest =>
      let name := rest.takeWhile isNameChar
      if name.isEmpty then refuse (.noNameAfterDescent (pos + 2) path)
      else do
        let more ← selectors fuel path (pos + 2 + name.length) (rest.dropWhile isNameChar)
        .ok (.descend (named name) :: more)
  | fuel + 1, '.' :: rest =>
    match rest with
    | '*' :: rest => do
      let more ← selectors fuel path (pos + 2) rest
      .ok (.wildcard :: more)
    | rest =>
      let name := rest.takeWhile isNameChar
      if name.isEmpty then refuse (.noName (pos + 1) path)
      else do
        let more ← selectors fuel path (pos + 1 + name.length) (rest.dropWhile isNameChar)
        .ok (named name :: more)
  | fuel + 1, '[' :: inner => bracketed fuel path pos inner id
  | _ + 1, c :: _ => refuse (.unexpected c pos path)
termination_by (fuel, 1)

/-- A bracket that opens at `pos`, and the selectors behind it. -/
def bracketed (fuel : Nat) (path : String) (pos : Nat) (inner : List Char)
    (wrap : Selector → Selector) : Parsed Query :=
  match closing none 0 [] inner with
  | .unclosed => refuse (.unclosed pos path)
  | .unbalanced => refuse (.unbalanced path)
  | .closed content rest => do
    let s ← bracket fuel path content
    let more ← selectors fuel path (pos + content.length + 2) rest
    .ok (wrap s :: more)
termination_by (fuel, 4)

/-- The selector that stands between brackets. -/
def bracket (fuel : Nat) (path : String) (content : List Char) : Parsed Selector :=
  let content := trim content
  match content with
  | [] => refuse (.emptyBrackets path)
  | ['*'] => .ok .wildcard
  | '?' :: rest =>
    match trim rest with
    | '(' :: inner =>
      if inner.getLast? == some ')' then filter fuel path inner.dropLast
      else refuse (.filterForm path)
    | _ => refuse (.filterForm path)
  | first :: _ =>
    match splitUnquoted ',' none content with
    | (_, _, some _) => refuse (.unterminated (String.ofList content))
    | (part, parts, none) =>
      if parts.isEmpty && content.contains ':' && !isQuote first then slice path content
      else do
        let ms ← (part :: parts).mapM (member path content)
        .ok (.members ms)
termination_by (fuel, 3)

/-- The filter with the given expression. -/
def filter (fuel : Nat) (path : String) (expression : List Char) : Parsed Selector :=
  match fuel, filterParts? expression with
  | fuel + 1, some (relative, test) => do
    let query ← parseWith fuel ('$' :: relative)
    match test with
    | none => .ok (.filter query .exist)
    | some (op, text) =>
      let v ← literal text
      .ok (.filter query (.compare op v))
  | _, _ => refuse (.filterExpression (String.ofList expression) path)
termination_by (fuel, 2)

end

/-- The query that a text stands for. -/
def parse (text : String) : Parsed Query :=
  parseWith (text.length + 1) text.toList

end ApiJourney.Query
