-- SUMMARY: A place in a YAML text and the moves from it.

/-!
# Cursors

A cursor is what is left of a text, with the number of characters in front of it, the
number of its line and its column. A byte order mark takes no column.

The end of a text, of which there is no character, counts as the end of a line. Line
breaks are unified to line feeds before a text is read, so that a carriage return is none
of the characters of a text.
-/

namespace ApiJourney.Yaml

/-! ## Characters -/

/-- Characters that a text may have. -/
def isAllowed (c : Char) : Bool :=
  let n := c.toNat
  n == 9 || n == 10 || (0x20 ≤ n && n ≤ 0x7E) || n == 0x85 || (0xA0 ≤ n && n ≤ 0xFFFD) || 0x10000 ≤ n

def isSpaceOrTab (c : Char) : Bool :=
  c == ' ' || c == '\t'

/-- Characters behind which a line starts. -/
def isBreak (c : Char) : Bool :=
  c == '\n' || c.toNat == 0x85 || c.toNat == 0x2028 || c.toNat == 0x2029

/-- What a line break is inside of a scalar. -/
def breakText (c : Char) : Char :=
  if c.toNat == 0x85 then '\n' else c

/-- Where comments and words end; separators of lines and paragraphs do not count. -/
def endsLine : Option Char → Bool
  | none => true
  | some c => c == '\n' || c.toNat == 0x85

def endsWord : Option Char → Bool
  | none => true
  | some c => endsLine (some c) || isSpaceOrTab c

/-- The end of the text, a space or a line break, as needed behind some words. -/
def isGap : Option Char → Bool
  | none => true
  | some c => c == ' ' || isBreak c

def isFlowIndicator (c : Char) : Bool :=
  c == ',' || c == '[' || c == ']' || c == '\x7b' || c == '\x7d'

/-- Characters of the names of anchors. -/
def isNameChar (c : Char) : Bool :=
  let n := c.toNat
  !isFlowIndicator c
    && ((0x21 ≤ n && n ≤ 0x7E) || (0xA0 ≤ n && n ≤ 0xFFFD && n != 0xFEFF) || 0x10000 ≤ n)

/-! ## Places -/

structure Cursor where
  rest : List Char
  index : Nat
  line : Nat
  column : Nat

namespace Cursor

def start (cs : List Char) : Cursor := ⟨cs, 0, 0, 0⟩

def peek (cur : Cursor) : Option Char := cur.rest.head?

/-- The character behind the next one. -/
def second (cur : Cursor) : Option Char := cur.rest.tail.head?

def atEnd (cur : Cursor) : Bool := cur.rest.isEmpty

/-- One character further; the end stays where it is. -/
def next (cur : Cursor) : Cursor :=
  match cur.rest with
  | [] => cur
  | c :: rest =>
    if isBreak c then ⟨rest, cur.index + 1, cur.line + 1, 0⟩
    else if c.toNat == 0xFEFF then { cur with rest, index := cur.index + 1 }
    else ⟨rest, cur.index + 1, cur.line, cur.column + 1⟩

def skip (cur : Cursor) : Nat → Cursor
  | 0 => cur
  | n + 1 => cur.next.skip n

/-- The characters of a class from here on, and the place behind them. -/
def run (cur : Cursor) (p : Char → Bool) : List Char × Cursor :=
  let taken := cur.rest.takeWhile p
  (taken, cur.skip taken.length)

def skipWhile (cur : Cursor) (p : Char → Bool) : Cursor :=
  (cur.run p).2

/-- Spaces up to a column. -/
def skipSpacesTo (cur : Cursor) (column : Nat) : Cursor :=
  cur.skip (min (column - cur.column) (cur.rest.takeWhile (· == ' ')).length)

def toLineEnd (cur : Cursor) : Cursor :=
  cur.skipWhile fun c => !endsLine (some c)

/-! ## Line breaks -/

/-- A line break here, as it counts inside of a scalar. -/
def break? (cur : Cursor) : Option (Char × Cursor) :=
  match cur.rest with
  | c :: _ => if isBreak c then some (breakText c, cur.next) else none
  | [] => none

/-- The place behind a line break, if there is one here. -/
def skipBreak (cur : Cursor) : Cursor :=
  match cur.break? with
  | some (_, cur) => cur
  | none => cur

/-- Whether three marks that stand for themselves are next. -/
def atMark (cur : Cursor) (mark : Char) : Bool :=
  match cur.rest with
  | a :: b :: c :: rest => a == mark && b == mark && c == mark && endsWord rest.head?
  | _ => false

/-- Whether a mark between documents is next. -/
def atSeparator (cur : Cursor) : Bool :=
  cur.atMark '-' || cur.atMark '.'

/-- The breaks of empty lines, from the start of a line on, and the place of what follows
    them. A mark between documents is the other way to end. -/
def emptyLinesWithin (isInset : Char → Bool) : Nat → Cursor → Except Cursor (List Char × Cursor)
  | 0, cur => .ok ([], cur)
  | fuel + 1, cur =>
    if cur.atSeparator then .error cur
    else
      let cur := cur.skipWhile isInset
      match cur.break? with
      | none => .ok ([], cur)
      | some (b, cur) =>
        match emptyLinesWithin isInset fuel cur with
        | .ok (bs, cur) => .ok (b :: bs, cur)
        | .error cur => .error cur

def emptyLines (cur : Cursor) (isInset : Char → Bool) : Except Cursor (List Char × Cursor) :=
  emptyLinesWithin isInset (cur.rest.length + 1) cur

end Cursor

/-- What a line break and those of the empty lines behind it stand for: a line feed alone
    is a space, and one in front of others goes away. -/
def folded (b : Char) (breaks : List Char) : List Char :=
  if b != '\n' then b :: breaks else if breaks.isEmpty then [' '] else breaks

end ApiJourney.Yaml
