-- SUMMARY: Literal and folded block scalars.
import ApiJourney.Fault
import ApiJourney.Text.Digit
import ApiJourney.Yaml.Cursor

/-!
# Block scalars

A block scalar is the indented lines below its header. A literal one keeps its line
breaks; in a folded one, a break between two lines that start with no blank is a space.
The header may name the indentation, and says what happens to the breaks at the end.
-/

namespace ApiJourney.Yaml.Block

inductive Style where
  | literal
  | folded
  deriving DecidableEq

/-- What happens to the breaks at the end: none, the first, or all are kept. -/
inductive Chomping where
  | strip
  | clip
  | keep
  deriving DecidableEq

/-! ## Headers -/

structure Header where
  chomping : Chomping
  /-- The indentation, counted from the block around. -/
  indent : Option Nat

def chomping? (cur : Cursor) : Option (Chomping × Cursor) :=
  match cur.peek with
  | some '+' => some (.keep, cur.next)
  | some '-' => some (.strip, cur.next)
  | _ => none

/-- An indentation of 1 to 9; none where there is no digit. -/
def indent? (cur : Cursor) : Except Fault (Option Nat × Cursor) :=
  match cur.peek with
  | none => .ok (none, cur)
  | some c =>
    if !Text.isAsciiDigit c then .ok (none, cur)
    else if c == '0' then .error .malformed
    else .ok (some (c.toNat - 48), cur.next)

/-- The two parts of a header, in any order. -/
def indicators (cur : Cursor) : Except Fault (Header × Cursor) := do
  match chomping? cur with
  | some (chomping, cur) =>
    let (indent, cur) ← indent? cur
    .ok (⟨chomping, indent⟩, cur)
  | none =>
    let (indent, cur) ← indent? cur
    match indent, chomping? cur with
    | some n, some (chomping, cur) => .ok (⟨chomping, some n⟩, cur)
    | indent, _ => .ok (⟨.clip, indent⟩, cur)

/-- The end of a line: spaces and a comment. -/
def lineEnd (cur : Cursor) : Except Fault Cursor :=
  let cur := cur.skipWhile (· == ' ')
  let cur := if cur.peek == some '#' then cur.toLineEnd else cur
  if endsLine cur.peek then .ok cur.skipBreak else .error .malformed

def header (cur : Cursor) : Except Fault (Header × Cursor) := do
  let (h, cur) ← indicators cur
  if !isGap cur.peek then .error .malformed
  else
    let cur ← lineEnd cur
    .ok (h, cur)

/-! ## Lines -/

/-- The breaks of empty lines, and the place at most `indent` columns into the next line. -/
def emptyLinesWithin (indent : Nat) : Nat → Cursor → List Char × Cursor
  | 0, cur => ([], cur)
  | fuel + 1, cur =>
    let cur := cur.skipSpacesTo indent
    match cur.break? with
    | none => ([], cur)
    | some (b, cur) =>
      let (bs, cur) := emptyLinesWithin indent fuel cur
      (b :: bs, cur)

def emptyLines (indent : Nat) (cur : Cursor) : List Char × Cursor :=
  emptyLinesWithin indent (cur.rest.length + 1) cur

/-- The breaks of empty lines, the place of what follows, and the deepest column on the way. -/
def deepestWithin : Nat → Cursor → List Char × Nat × Cursor
  | 0, cur => ([], 0, cur)
  | fuel + 1, cur =>
    let spaces := (cur.rest.takeWhile (· == ' ')).length
    let cur := cur.skip spaces
    let here := if spaces = 0 then 0 else cur.column
    match cur.break? with
    | none => ([], here, cur)
    | some (b, cur) =>
      let (bs, deepest, cur) := deepestWithin fuel cur
      (b :: bs, max here deepest, cur)

/-- What stands behind the last line: its break, those of the empty lines, the place. -/
structure Tail where
  lineBreak : List Char
  breaks : List Char
  cursor : Cursor

/-- Whether a line starts with no blank. -/
def isDense (c : Option Char) : Bool :=
  !(c.map isSpaceOrTab).getD false

/-- What stands between two lines, besides the breaks of the empty lines there. -/
def joint (style : Style) (first second : Option Char) (lineBreak breaks : List Char) : List Char :=
  if style == .folded && lineBreak == ['\n'] && isDense first && isDense second then
    if breaks.isEmpty then [' '] else []
  else lineBreak

/-- The lines from a place on, `breaks` being those in front of it. At the outermost level
    a mark between documents ends them. -/
def linesWithin (style : Style) (indent : Nat) (outermost : Bool) :
    Nat → Cursor → List Char → List Char × Tail
  | 0, cur, breaks => ([], ⟨[], breaks, cur⟩)
  | fuel + 1, cur, breaks =>
    if cur.column != indent || cur.atEnd then ([], ⟨[], breaks, cur⟩)
    else
      let (line, cur) := cur.run fun c => !endsLine (some c)
      let (lineBreak, cur) := match cur.break? with
        | some (b, cur) => ([b], cur)
        | none => ([], cur)
      let (next, cur) := emptyLines indent cur
      let ends := cur.column != indent || cur.atEnd
        || (outermost && cur.column == 0 && cur.atSeparator)
      if ends then (breaks ++ line, ⟨lineBreak, next, cur⟩)
      else
        let between := joint style line.head? cur.peek lineBreak next
        let (more, tail) := linesWithin style indent outermost fuel cur next
        (breaks ++ line ++ between ++ more, tail)

def Chomping.kept (c : Chomping) (t : Tail) : List Char :=
  match c with
  | strip => []
  | clip => t.lineBreak
  | keep => t.lineBreak ++ t.breaks

/-- The block scalar behind its mark. Its lines have at least `margin` columns in front. -/
def scan (style : Style) (margin : Nat) (cur : Cursor) : Except Fault (String × Cursor) := do
  let (h, cur) ← header cur
  let (indent, breaks, cur) := match h.indent with
    | some n =>
      let indent := max margin 1 + n - 1
      let (breaks, cur) := emptyLines indent cur
      (indent, breaks, cur)
    | none =>
      let (breaks, deepest, cur) := deepestWithin (cur.rest.length + 1) cur
      (max margin deepest, breaks, cur)
  let outermost := margin == 0 && h.indent.isNone
  let (cs, tail) := linesWithin style indent outermost (cur.rest.length + 1) cur breaks
  .ok (String.ofList (cs ++ h.chomping.kept tail), tail.cursor)

end ApiJourney.Yaml.Block
