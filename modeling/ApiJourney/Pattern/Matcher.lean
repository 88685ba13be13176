-- SUMMARY: Matching a pattern at the positions of a text, with backtracking.
import ApiJourney.Pattern.Syntax

/-!
# Matching

A node is matched at a spot of a text and hands the spots where it ends, in
order of preference, to what follows it; the first for which that succeeds
counts. A repetition whose last round began where it would begin again goes no
further.
-/

namespace ApiJourney.Pattern

open ApiJourney.Text

/-- A position and the marks of the groups: the start of group `n` at `2 n`, its end
    at `2 n + 1`. -/
structure Spot where
  offset : Nat
  marks : Array (Option Nat)

/-- A way to go on from a spot. -/
abbrev Onward := Spot → Option Spot

/-- A match of something that hands on where it ends. -/
abbrev Matcher := Spot → Onward → Option Spot

/-! ## Positions -/

def wordAt (ascii : Bool) (text : Array Char) (i : Nat) : Bool :=
  (text[i]?.map (Category.word.holds ascii)).getD false

def atWordEdge (ascii : Bool) (text : Array Char) (i : Nat) : Bool :=
  (0 < i && wordAt ascii text (i - 1)) != wordAt ascii text i

def Anchor.holds (text : Array Char) (i : Nat) : Anchor → Bool
  | .textStart => i == 0
  | .lineStart => i == 0 || text[i - 1]? == some '\n'
  | .textEnd => i == text.size
  | .lastLineEnd => i == text.size || (i + 1 == text.size && text[i]? == some '\n')
  | .lineEnd => i == text.size || text[i]? == some '\n'
  | .wordEdge ascii => !text.isEmpty && atWordEdge ascii text i
  | .notWordEdge ascii => !text.isEmpty && !atWordEdge ascii text i

/-! ## Groups -/

def Spot.mark (s : Spot) (i : Nat) : Option Nat :=
  s.marks[i]?.join

def Spot.setMark (s : Spot) (i : Nat) : Spot :=
  { s with marks := s.marks.setIfInBounds i (some s.offset) }

/-- Where a group that has matched starts and ends. -/
def Spot.group? (s : Spot) (n : Nat) : Option (Nat × Nat) := do
  let a ← s.mark (2 * n)
  let b ← s.mark (2 * n + 1)
  if a ≤ b then some (a, b) else none

/-- Whether two stretches of the text are the same. -/
def sameStretch (text : Array Char) (casing : Option Casing) (a b : Nat) : Nat → Bool
  | 0 => true
  | length + 1 =>
    match text[a]?, text[b]? with
    | some c, some d =>
      (match casing with
        | none => c == d
        | some k => k.lower c == k.lower d)
        && sameStretch text casing (a + 1) (b + 1) length
    | _, _ => false

/-! ## Repetitions -/

def below (most : Option Nat) (count : Nat) : Bool :=
  most.all (count < ·)

/-- Rounds of `body`, as many as possible. `last` is where the last round that was not
    required began. -/
def greedyRounds (body : Matcher) (least : Nat) (most : Option Nat) (onward : Onward) :
    Nat → Nat → Option Nat → Spot → Option Spot
  | 0, _, _, _ => none
  | fuel + 1, count, last, s =>
    if count < least then body s (greedyRounds body least most onward fuel (count + 1) last)
    else
      let another :=
        if below most count && last != some s.offset then
          body s (greedyRounds body least most onward fuel (count + 1) (some s.offset))
        else none
      match another with
      | some r => some r
      | none => onward s

/-- Rounds of `body`, as few as possible. -/
def lazyRounds (body : Matcher) (least : Nat) (most : Option Nat) (onward : Onward) :
    Nat → Nat → Option Nat → Spot → Option Spot
  | 0, _, _, _ => none
  | fuel + 1, count, last, s =>
    if count < least then body s (lazyRounds body least most onward fuel (count + 1) last)
    else
      match onward s with
      | some r => some r
      | none =>
        if below most count && last != some s.offset then
          body s (lazyRounds body least most onward fuel (count + 1) (some s.offset))
        else none

/-- Rounds of `body`, each ended at its first end, as many as possible. -/
def possessiveRounds (body : Matcher) (least : Nat) (most : Option Nat) :
    Nat → Nat → Option Nat → Spot → Option Spot
  | 0, _, _, _ => none
  | fuel + 1, count, last, s =>
    if count < least then
      match body s some with
      | some r => possessiveRounds body least most fuel (count + 1) last r
      | none => none
    else if below most count && last != some s.offset then
      match body s some with
      | some r => possessiveRounds body least most fuel (count + 1) (some s.offset) r
      | none => some s
    else some s

/-- How many characters of a class stand at a position, up to a limit. -/
def runLength (text : Array Char) (set : CharClass) (i : Nat) : Nat → Nat
  | 0 => 0
  | limit + 1 =>
    match text[i]? with
    | some c => if set.holds c then runLength text set (i + 1) limit + 1 else 0
    | none => 0

/-- Goes on behind `least + more` characters, then behind fewer. -/
def givingBack (s : Spot) (least : Nat) (onward : Onward) : Nat → Option Spot
  | 0 => onward { s with offset := s.offset + least }
  | more + 1 =>
    match onward { s with offset := s.offset + least + more + 1 } with
    | some r => some r
    | none => givingBack s least onward more

/-- Goes on behind `count` characters, then behind more. -/
def takingMore (s : Spot) (onward : Onward) : Nat → Nat → Option Spot
  | count, 0 => onward { s with offset := s.offset + count }
  | count, more + 1 =>
    match onward { s with offset := s.offset + count } with
    | some r => some r
    | none => takingMore s onward (count + 1) more

/-- A repetition of a character of a class. -/
def repeatChar (text : Array Char) (greed : Greed) (least : Nat) (most : Option Nat) (set : CharClass) :
    Matcher := fun s onward =>
  let room := text.size - s.offset
  let run := runLength text set s.offset (min room (most.getD room))
  if run < least then none
  else match greed with
    | .greedy => givingBack s least onward (run - least)
    | .lazy => takingMore s onward least (run - least)
    | .possessive => onward { s with offset := s.offset + run }

/-- A repetition of anything. -/
def repeatBody (text : Array Char) (greed : Greed) (least : Nat) (most : Option Nat) (body : Matcher) :
    Matcher := fun s onward =>
  let fuel := least + (text.size - s.offset) + 3
  match greed with
  | .greedy => greedyRounds body least most onward fuel 0 none s
  | .lazy => lazyRounds body least most onward fuel 0 none s
  | .possessive => (possessiveRounds body least most fuel 0 none s).bind onward

/-! ## Nodes -/

def Node.matcher (text : Array Char) : Node → Matcher
  | .empty => fun s onward => onward s
  | .char set => fun s onward =>
    match text[s.offset]? with
    | some c => if set.holds c then onward { s with offset := s.offset + 1 } else none
    | none => none
  | .anchor a => fun s onward => if a.holds text s.offset then onward s else none
  | .seq a b =>
    let first := matcher text a
    let second := matcher text b
    fun s onward => first s fun s => second s onward
  | .either a b =>
    let first := matcher text a
    let second := matcher text b
    fun s onward =>
      match first s onward with
      | some r => some r
      | none => second s onward
  | .group n body =>
    let inner := matcher text body
    fun s onward => inner (s.setMark (2 * n)) fun s => onward (s.setMark (2 * n + 1))
  | .repeated greed least most (.char set) => repeatChar text greed least most set
  | .repeated greed least most body => repeatBody text greed least most (matcher text body)
  | .atomic body =>
    let inner := matcher text body
    fun s onward => (inner s some).bind onward
  | .look behind negated body =>
    let inner := matcher text body
    let back := if behind then body.width.low else 0
    fun s onward =>
      let found := if s.offset < back then none else inner { s with offset := s.offset - back } some
      match negated, found with
      | false, some r => onward { r with offset := s.offset }
      | false, none => none
      | true, some _ => none
      | true, none => onward s
  | .again n casing _ => fun s onward =>
    match s.group? n with
    | none => none
    | some (a, b) =>
      if sameStretch text casing a s.offset (b - a) then onward { s with offset := s.offset + (b - a) } else none
  | .choose n yes no =>
    let onYes := matcher text yes
    let onNo := matcher text no
    fun s onward => if (s.group? n).isSome then onYes s onward else onNo s onward

end ApiJourney.Pattern

namespace ApiJourney

/-- A match: where it starts and ends, and the marks of its groups. -/
structure Pattern.Match where
  start : Nat
  spot : Pattern.Spot

namespace Pattern

/-- The first match from position `i` on; `count` bounds the positions tried. -/
def searchFrom (matcher : Matcher) (marks : Array (Option Nat)) : Nat → Nat → Option Match
  | 0, _ => none
  | count + 1, i =>
    match matcher ⟨i, marks⟩ some with
    | some s => some ⟨i, s⟩
    | none => searchFrom matcher marks count (i + 1)

def search (p : Pattern) (text : Array Char) : Option Match :=
  searchFrom (p.node.matcher text) (Array.replicate (2 * (p.groups + 1)) none) (text.size + 1) 0

/-- The text of a group; the whole match is group 0. -/
def Match.group? (m : Match) (text : Array Char) (n : Nat) : Option (List Char) :=
  let span := if n = 0 then some (m.start, m.spot.offset) else m.spot.group? n
  span.map fun (a, b) => (text.extract a b).toList

end Pattern

end ApiJourney
