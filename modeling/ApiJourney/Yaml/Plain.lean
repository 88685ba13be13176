-- SUMMARY: Plain scalars.
import ApiJourney.Yaml.Cursor

/-!
# Plain scalars

A plain scalar is made of pieces without blanks and of the gaps between them. In a block
it goes on over lines that are indented deep enough; in a flow it ends at the brackets,
braces and commas. A colon is part of it only in front of another character of a word,
and a number sign only inside of a piece.
-/

namespace ApiJourney.Yaml

/-- A plain scalar, the place behind it, and whether that is on another line than the last
    piece of the scalar. -/
structure Plain where
  text : List Char
  cursor : Cursor
  crossed : Bool

namespace Plain

/-- The characters that a plain scalar may not start with. -/
def reserved : List Char := "\t\n-?:,[]#&*!|>\'\"%@ ".toList ++
  [Char.ofNat 96, Char.ofNat 0x7B, Char.ofNat 0x7D, Char.ofNat 0x85, Char.ofNat 0x2028, Char.ofNat 0x2029]

/-- Whether a plain scalar starts at a place. -/
def startsAt (inFlow : Bool) (cur : Cursor) : Bool :=
  match cur.peek with
  | none => false
  | some c =>
    !reserved.contains c || (c == '-' && !endsWord cur.second)
      || (c == ':' && inFlow && !(cur.second.map isSpaceOrTab).getD false)
      || (!inFlow && (c == '?' || c == ':') && !endsWord cur.second)

/-- The piece of a plain scalar that a text starts with. -/
def piece (inFlow : Bool) : List Char → List Char
  | [] => []
  | c :: rest =>
    if c == ':' then if endsWord rest.head? then [] else c :: piece inFlow rest
    else if endsWord (some c) || (inFlow && isFlowIndicator c) then []
    else c :: piece inFlow rest

/-- A gap behind a piece: nothing where the scalar cannot go on. -/
def gap (cur : Cursor) : Plain :=
  let (spaces, cur) := cur.run (· == ' ')
  match cur.break? with
  | none => ⟨spaces, cur, false⟩
  | some (b, cur) =>
    match cur.emptyLines (· == ' ') with
    | .ok (breaks, cur) => ⟨folded b breaks, cur, true⟩
    | .error cur => ⟨[], cur, true⟩

/-- The rest of a plain scalar from a gap on; without a piece behind it the gap does not
    belong to the scalar. -/
def moreWithin (inFlow : Bool) (margin : Nat) : Nat → Plain → Plain
  | 0, g => { g with text := [] }
  | fuel + 1, g =>
    let next := piece inFlow g.cursor.rest
    if g.text.isEmpty || next.isEmpty || g.cursor.peek == some '#'
        || (!inFlow && g.cursor.column < margin) then { g with text := [] }
    else
      let more := moreWithin inFlow margin fuel (gap (g.cursor.skip next.length))
      { more with text := g.text ++ next ++ more.text }

/-- The plain scalar at a place. In a block, lines with less than `margin` columns in front
    do not belong to it. -/
def scan (inFlow : Bool) (margin : Nat) (cur : Cursor) : Plain :=
  let first := piece inFlow cur.rest
  let more := moreWithin inFlow margin cur.rest.length (gap (cur.skip first.length))
  { more with text := first ++ more.text }

end Plain

end ApiJourney.Yaml
