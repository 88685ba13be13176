-- SUMMARY: Filling of placeholders and variable tokens in templates.
import ApiJourney.Json.Printer
import ApiJourney.Template.Path
import ApiJourney.Text.Search

/-!
# Filling templates

A placeholder is a path between double braces; the text of the value there takes
its place, in one pass from left to right, and values put in are not looked at
again. A placeholder whose path leads nowhere stays as it is. A text that is a
variable token as a whole stands for the value itself or for its text.
-/

namespace ApiJourney.Template

open ApiJourney.Text

/-! ## Texts of values -/

/-- The text of a value in a template: null is empty, containers are JSON. -/
def textOf : Value → Except Fault String
  | .null => .ok ""
  | .bool b => .ok (if b then "true" else "false")
  | .list xs => Json.text (.list xs)
  | .dict es => Json.text (.dict es)
  | v =>
    match v.shown? with
    | some t => .ok t
    | none => .error .badValue

/-! ## Placeholders -/

def isBrace (c : Char) : Bool :=
  c == '\x7b' || c == '\x7d'

/-- The path inside of a placeholder: blanks around it do not count, unless there is
    nothing else. -/
def pathOf (content : List Char) : List Char :=
  match trim content with
  | [] => content.getLast?.toList
  | path => path

/-- The path of the placeholder that a text starts with, and the length of the placeholder. -/
def placeholder? (cs : List Char) : Option (List Char × Nat) :=
  match cs with
  | a :: b :: rest =>
    if a == '\x7b' && b == '\x7b' then
      let content := rest.takeWhile (!isBrace ·)
      match rest.dropWhile (!isBrace ·) with
      | c :: d :: _ =>
        if c == '\x7d' && d == '\x7d' && !content.isEmpty then some (pathOf content, content.length + 4)
        else none
      | _ => none
    else none
  | _ => none

/-- The text with its placeholders filled; the next `skip` characters belong to the last one. -/
def fillFrom (context : Value) (skip : Nat) : List Char → Except Fault (List Char)
  | [] => .ok []
  | c :: rest =>
    match skip with
    | skip + 1 => fillFrom context skip rest
    | 0 =>
      match placeholder? (c :: rest) with
      | none => do
        let more ← fillFrom context 0 rest
        .ok (c :: more)
      | some (path, length) => do
        let filled ←
          match ← lookup? context path with
          | some v => (textOf v).map String.toList
          | none => .ok ((c :: rest).take length)
        let more ← fillFrom context (length - 1) rest
        .ok (filled ++ more)

/-! ## Variable tokens -/

def tokenStart : List Char := "##VAR:".toList
def tokenEnd : List Char := "##".toList

/-- What stands between the start and the end of a variable token. -/
def tokenBody? (cs : List Char) : Option (List Char) :=
  let ends := tokenStart.length + tokenEnd.length
  if tokenStart.isPrefixOf cs && isSuffixOf tokenEnd cs && ends < cs.length then
    some ((cs.drop tokenStart.length).take (cs.length - ends))
  else none

/-- The value that a token of a kind stands for; unless it is unquoted, its text. -/
def fillToken (context : Value) (kind path : List Char) : Except Fault Value := do
  let unquoted := kind == "unquoted".toList
  match ← lookup? context path with
  | none => .ok (if unquoted then .null else .text "")
  | some v => if unquoted then .ok v else (textOf v).map .text

/-! ## Templates -/

/-- A text filled: a variable token as a whole, any other text by its placeholders. A token
    without a kind is no template. -/
def fillText (context : Value) (s : String) : Except Fault Value :=
  match tokenBody? s.toList with
  | some body =>
    match split [':'] (some 1) body with
    | [kind, path] => fillToken context kind path
    | _ => .ok (.text s)
  | none => (fillFrom context 0 s.toList).map fun cs => .text (String.ofList cs)

/-- A template filled; what is no text stays. -/
def fill (context : Value) : Value → Except Fault Value
  | .text s => fillText context s
  | v => .ok v

mutual

/-- All texts inside of a value filled, keys too. Of entries that get the same key the
    last one counts. -/
def fillAll (context : Value) : Value → Except Fault Value
  | .text s => fillText context s
  | .list xs => do
    let ys ← fillItems context xs
    .ok (.list ys)
  | .dict es => do
    let fs ← fillEntries context [] es
    .ok (.dict fs)
  | v => .ok v

def fillItems (context : Value) : List Value → Except Fault (List Value)
  | [] => .ok []
  | x :: rest => do
    let y ← fillAll context x
    let ys ← fillItems context rest
    .ok (y :: ys)

def fillEntries (context : Value) (filled : Entries) : List (Value × Value) → Except Fault Entries
  | [] => .ok filled
  | (k, v) :: rest => do
    let key ← fill context k
    let value ← fillAll context v
    if !key.hashable then .error .wrongType
    else fillEntries context (filled.insert key value) rest

end

end ApiJourney.Template
