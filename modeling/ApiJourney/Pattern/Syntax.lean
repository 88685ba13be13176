-- SUMMARY: Patterns: what a regular expression stands for.
import ApiJourney.Pattern.Folding
import ApiJourney.Number.Numeral

/-!
# Patterns

A pattern is a tree of nodes that match at a position of a text. The options in
force where a node was written are resolved: a character node knows whether it
ignores case, and an anchor whether it looks at lines.
-/

namespace ApiJourney.Pattern

open ApiJourney.Text

/-! ## Single characters -/

inductive Category where
  | digit | space | word
  deriving DecidableEq

/-- Whether a character belongs to a category, of all scripts or of ASCII. -/
def Category.holds (ascii : Bool) : Category → Char → Bool
  | .digit, c => if ascii then isAsciiDigit c else isDecimal c
  | .space, c => if ascii then Numeral.isAsciiBlank c else isBlank c
  | .word, c => if ascii then isAsciiLetter c || isAsciiDigit c || c == '_' else isWord c

inductive ClassItem where
  | range (low high : Nat)
  /-- A range that also holds the characters whose upper-case form it holds. -/
  | raisedRange (low high : Nat)
  | category (kind : Category) (ascii negated : Bool)
  deriving DecidableEq

def inRange (low high : Nat) (c : Char) : Bool :=
  low ≤ codeOf c && codeOf c ≤ high

def ClassItem.holds (c : Char) : ClassItem → Bool
  | .range low high => inRange low high c
  | .raisedRange low high => inRange low high c || inRange low high (raised c)
  | .category kind ascii negated => kind.holds ascii c != negated

/-- A set of characters; with `casing`, it is the lower-case form of a character that is
    looked up. -/
structure CharClass where
  negated : Bool
  items : List ClassItem
  casing : Option Casing

def CharClass.holds (s : CharClass) (c : Char) : Bool :=
  let c := (s.casing.map fun k => k.lower c).getD c
  s.items.any (·.holds c) != s.negated

/-- A range whose characters count in either case. -/
def ClassItem.folded (k : Casing) (low high : Nat) : List ClassItem :=
  let below := (k.foldRange low (min high 0xFFFF)).map fun (a, b) => ClassItem.range a b
  if high ≤ 0xFFFF then below
  else below ++ [if low = high then .range low high else .raisedRange low high]

/-- The class of one character. -/
def CharClass.single (negated : Bool) (casing : Option Casing) (c : Char) : CharClass :=
  match casing with
  | none => ⟨negated, [.range (codeOf c) (codeOf c)], none⟩
  | some k => ⟨negated, (k.family (k.lower c)).map fun m => .range (codeOf m) (codeOf m), some k⟩

/-- The class of the given items. -/
def CharClass.ofItems (negated : Bool) (casing : Option Casing) (items : List ClassItem) : CharClass :=
  match casing with
  | none => ⟨negated, items, none⟩
  | some k =>
    ⟨negated, items.flatMap fun item =>
      match item with
      | .range low high => ClassItem.folded k low high
      | item => [item], some k⟩

/-! ## Nodes -/

inductive Anchor where
  | textStart | lineStart | textEnd | lastLineEnd | lineEnd
  | wordEdge (ascii : Bool)
  | notWordEdge (ascii : Bool)
  deriving DecidableEq

/-- How a repetition chooses: as often as possible, as rarely as possible, or as often
    as possible without giving back. -/
inductive Greed where
  | greedy | lazy | possessive
  deriving DecidableEq

def Greed.operator : Greed → String
  | greedy => "MAX_REPEAT"
  | lazy => "MIN_REPEAT"
  | possessive => "POSSESSIVE_REPEAT"

/-- The least and the greatest length of what a node matches. -/
structure Width where
  low : Nat
  high : Option Nat
  deriving DecidableEq

namespace Width

def zero : Width := ⟨0, some 0⟩

def add (a b : Width) : Width :=
  ⟨a.low + b.low, do some ((← a.high) + (← b.high))⟩

def either (a b : Width) : Width :=
  ⟨min a.low b.low, do some (max (← a.high) (← b.high))⟩

def times (w : Width) (least : Nat) (most : Option Nat) : Width :=
  ⟨w.low * least,
    if w.high = some 0 || most = some 0 then some 0 else do some ((← w.high) * (← most))⟩

/-- Why a look behind by this width cannot be taken. -/
def flaw? (w : Width) : Option String :=
  if Nat.pow 2 32 ≤ w.low then some "looks too much behind"
  else if w.high == some w.low then none
  else some "look-behind requires fixed-width pattern"

end Width

inductive Node where
  | empty
  | char (set : CharClass)
  | anchor (a : Anchor)
  | seq (first second : Node)
  | either (first second : Node)
  | group (index : Nat) (body : Node)
  | repeated (greed : Greed) (least : Nat) (most : Option Nat) (body : Node)
  | atomic (body : Node)
  /-- Looks ahead, or behind by the width of the body. -/
  | look (behind negated : Bool) (body : Node)
  /-- The text of a group again. -/
  | again (group : Nat) (casing : Option Casing) (width : Width)
  /-- One of two nodes, by whether a group has matched. -/
  | choose (group : Nat) (yes no : Node)

namespace Node

def width : Node → Width
  | .empty => .zero
  | .char _ => ⟨1, some 1⟩
  | .anchor _ => .zero
  | .seq a b => (width a).add (width b)
  | .either a b => (width a).either (width b)
  | .group _ b => width b
  | .repeated _ least most b => (width b).times least most
  | .atomic b => width b
  | .look _ _ _ => .zero
  | .again _ _ w => w
  | .choose _ y n => (width y).either (width n)

/-- What a node asks for in vain, the first of it: to look behind by no fixed width, or in a
    template, to repeat. -/
def flaw? (template : Bool) : Node → Option String
  | .seq a b => flaw? template a <|> flaw? template b
  | .either a b => flaw? template a <|> flaw? template b
  | .group _ b => flaw? template b
  | .repeated greed _ _ b =>
    if template then some s!"internal: unsupported template operator {greed.operator}"
    else flaw? template b
  | .atomic b => flaw? template b
  | .look behind _ b => (if behind then (width b).flaw? else none) <|> flaw? template b
  | .choose _ y n => flaw? template y <|> flaw? template n
  | _ => none

end Node

end ApiJourney.Pattern

namespace ApiJourney

/-- A regular expression: its node and the number of its groups. -/
structure Pattern where
  node : Pattern.Node
  groups : Nat

end ApiJourney
