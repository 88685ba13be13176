-- SUMMARY: Quoted scalars.
import ApiJourney.Fault
import ApiJourney.Number.Numeral
import ApiJourney.Text.Utf8
import ApiJourney.Yaml.Cursor

/-!
# Quoted scalars

Between single quotes a quote is written twice and all else stands for itself. Between
double quotes a backslash starts an escape. In both, a line break is folded with the
blanks around it.
-/

namespace ApiJourney.Yaml.Quoted

inductive Style where
  | single
  | double
  deriving DecidableEq

/-! ## Escapes -/

/-- Escapes of one letter. -/
def letters : List (Char × Nat) :=
  [('0', 0), ('a', 7), ('b', 8), ('t', 9), ('\t', 9), ('n', 10), ('v', 11), ('f', 12), ('r', 13),
   ('e', 27), (' ', 32), ('"', 34), ('/', 47), ('\\', 92), ('N', 0x85), ('_', 0xA0),
   ('L', 0x2028), ('P', 0x2029)]

/-- How many hexadecimal digits follow a letter. -/
def digitCounts : List (Char × Nat) := [('x', 2), ('u', 4), ('U', 8)]

/-- The character of a number written with all of the given digits. -/
def ofHex (digits : List Char) (count : Nat) : Except Fault Char :=
  match digits.mapM (Numeral.digitValue? 16) with
  | none => .error .malformed
  | some ds =>
    let code := Numeral.ofDigits 16 ds
    if digits.length < count then .error .malformed
    else if 0x7FFFFFFF < code then .error .overflow
    else if 0x10FFFF < code then .error .badValue
    else .ok (Text.ofCode code)

/-- What an escape stands for, from behind the backslash. A break is left out with all
    empty lines but their breaks. -/
def escape (cur : Cursor) : Except Fault (List Char × Cursor) :=
  match cur.peek with
  | none => .error .malformed
  | some c =>
    match letters.lookup c, digitCounts.lookup c with
    | some code, _ => .ok ([Char.ofNat code], cur.next)
    | none, some count => do
      let x ← ofHex (cur.next.rest.take count) count
      .ok ([x], cur.next.skip count)
    | none, none =>
      if !isBreak c then .error .malformed
      else match cur.next.emptyLines isSpaceOrTab with
        | .ok (breaks, cur) => .ok (breaks, cur)
        | .error _ => .error .malformed

/-! ## Bodies -/

/-- Blanks, or a folded line break in place of those around it. -/
def gap (cur : Cursor) : Except Fault (List Char × Cursor) :=
  let (blanks, cur) := cur.run isSpaceOrTab
  match cur.break? with
  | none => .ok (blanks, cur)
  | some (b, cur) =>
    match cur.emptyLines isSpaceOrTab with
    | .ok (breaks, cur) => .ok (folded b breaks, cur)
    | .error _ => .error .malformed

/-- The characters up to the closing quote and the place behind it. -/
def bodyWithin (style : Style) : Nat → Cursor → Except Fault (List Char × Cursor)
  | 0, _ => .error .malformed
  | fuel + 1, cur =>
    let onward (piece : List Char × Cursor) : Except Fault (List Char × Cursor) := do
      let (cs, cur) ← bodyWithin style fuel piece.2
      .ok (piece.1 ++ cs, cur)
    match cur.peek with
    | none => .error .malformed
    | some c =>
      if isSpaceOrTab c || isBreak c then gap cur >>= onward
      else match style with
        | .single =>
          if c != '\'' then onward ([c], cur.next)
          else if cur.second == some '\'' then onward ([c], cur.next.next)
          else .ok ([], cur.next)
        | .double =>
          if c == '"' then .ok ([], cur.next)
          else if c == '\\' then escape cur.next >>= onward
          else onward ([c], cur.next)

/-- A quoted scalar from behind its first quote. -/
def body (style : Style) (cur : Cursor) : Except Fault (String × Cursor) := do
  let (cs, cur) ← bodyWithin style (cur.rest.length + 1) cur
  .ok (String.ofList cs, cur)

end ApiJourney.Yaml.Quoted
