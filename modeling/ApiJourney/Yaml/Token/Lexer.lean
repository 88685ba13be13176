-- SUMMARY: Cutting YAML texts into tokens.
import ApiJourney.Yaml.Plain
import ApiJourney.Yaml.Quoted
import ApiJourney.Yaml.Token

/-!
# Cutting texts into tokens

The indentation of the lines opens and closes collections. A key is not known as one until
the colon behind it is met: where one may start, the number of its first token is kept,
and the token that tells the key goes in front of it later. A key ends on its line, and
has a limited length.
-/

namespace ApiJourney.Yaml

/-- A place where a key may have started. -/
structure PossibleKey where
  /-- How many flow collections are open there. -/
  depth : Nat
  /-- The number of the tokens in front. -/
  number : Nat
  /-- Whether nothing but a key can start there. -/
  isRequired : Bool
  cursor : Cursor

/-- The most characters in front of the colon of a key. -/
def maxKey : Nat := 1024

/-- A text partly cut. The margin is one more than the column of the innermost block, and
    zero outside of all blocks. -/
structure Lexer where
  cursor : Cursor
  tokens : Array Token
  /-- The open flow collections, the innermost first. -/
  flows : List Flow
  margin : Nat
  /-- The margins of the blocks around. -/
  margins : List Nat
  /-- Whether a key may start here. -/
  keyAllowed : Bool
  keys : List PossibleKey

namespace Lexer

def start (cs : List Char) : Lexer :=
  let cur := Cursor.start cs
  ⟨if cs.head?.map Char.toNat == some 0xFEFF then cur.next else cur, #[], [], 0, [], true, []⟩

def inFlow (s : Lexer) : Bool := !s.flows.isEmpty

def push (s : Lexer) (t : Token) : Lexer := { s with tokens := s.tokens.push t }

/-- A token of the given number of characters. -/
def mark (s : Lexer) (width : Nat) (t : Token) : Lexer :=
  { s.push t with cursor := s.cursor.skip width }

/-! ## Possible keys -/

/-- The keys that satisfy `p` are no keys after all. -/
def dropKeys (s : Lexer) (p : PossibleKey → Bool) : Except Fault Lexer :=
  if s.keys.any fun k => p k && k.isRequired then .error .malformed
  else .ok { s with keys := s.keys.filter fun k => !p k }

/-- Keys do not go on over lines, nor over too many characters. -/
def dropStale (s : Lexer) : Except Fault Lexer :=
  s.dropKeys fun k => k.cursor.line != s.cursor.line || maxKey < s.cursor.index - k.cursor.index

/-- No key goes on here in the innermost collection. -/
def dropKey (s : Lexer) : Except Fault Lexer :=
  s.dropKeys (·.depth == s.flows.length)

/-- A key may start here, if one may start at all. -/
def saveKey (s : Lexer) : Except Fault Lexer :=
  if !s.keyAllowed then .ok s
  else do
    let s ← s.dropKey
    let isRequired := !s.inFlow && s.margin == s.cursor.column + 1
    .ok { s with keys := ⟨s.flows.length, s.tokens.size, isRequired, s.cursor⟩ :: s.keys }

/-! ## Indentation -/

/-- The innermost blocks end that have a margin above `bound`. -/
def closeBlocks (bound : Nat) (tokens : Array Token) (margin : Nat) :
    List Nat → Array Token × Nat × List Nat
  | [] => (tokens, margin, [])
  | outer :: margins =>
    if bound < margin then closeBlocks bound (tokens.push .blockEnd) outer margins
    else (tokens, margin, outer :: margins)

def closeTo (s : Lexer) (bound : Nat) : Lexer :=
  if s.inFlow then s
  else
    let (tokens, margin, margins) := closeBlocks bound s.tokens s.margin s.margins
    { s with tokens, margin, margins }

/-- A block that starts at a column, if it is deeper than the innermost one; the token for
    it gets the given number. -/
def openBlock (s : Lexer) (column number : Nat) (t : Token) : Lexer :=
  if s.inFlow || column < s.margin then s
  else { s with
    tokens := s.tokens.insertIdxIfInBounds number t
    margin := column + 1
    margins := s.margin :: s.margins }

def openHere (s : Lexer) (t : Token) : Lexer :=
  s.openBlock s.cursor.column s.tokens.size t

/-! ## Blanks -/

/-- Blanks, comments and line breaks; behind a break a key may start in a block. -/
def skipBlanksWithin : Nat → Lexer → Lexer
  | 0, s => s
  | fuel + 1, s =>
    let cur := s.cursor.skipWhile fun c => c == ' ' || (s.inFlow && c == '\t')
    let cur := if cur.peek == some '#' then cur.toLineEnd else cur
    match cur.break? with
    | none => { s with cursor := cur }
    | some (_, cur) =>
      skipBlanksWithin fuel { s with cursor := cur, keyAllowed := s.keyAllowed || !s.inFlow }

def skipBlanks (s : Lexer) : Lexer :=
  skipBlanksWithin (s.cursor.rest.length + 1) s

/-! ## Structure -/

/-- A mark between documents, or a directive, ends all blocks. -/
def endAll (s : Lexer) : Except Fault Lexer := do
  let s ← (s.closeTo 0).dropKey
  .ok { s with keyAllowed := false }

def openFlow (s : Lexer) (f : Flow) : Except Fault Lexer := do
  let s ← s.saveKey
  .ok { s.mark 1 (.opening f) with flows := f :: s.flows, keyAllowed := true }

def closeFlow (s : Lexer) (f : Flow) : Except Fault Lexer := do
  let s ← s.dropKey
  .ok { s.mark 1 (.closing f) with flows := s.flows.tail, keyAllowed := false }

def separate (s : Lexer) : Except Fault Lexer := do
  let s ← s.dropKey
  .ok { s.mark 1 .separator with keyAllowed := true }

/-- An entry of a block sequence. -/
def enter (s : Lexer) : Except Fault Lexer := do
  if !s.inFlow && !s.keyAllowed then .error .malformed
  else
    let s ← (s.openHere .blockSequence).dropKey
    .ok { s.mark 1 .entry with keyAllowed := true }

/-- A key with a mark in front. -/
def markKey (s : Lexer) : Except Fault Lexer := do
  if !s.inFlow && !s.keyAllowed then .error .malformed
  else
    let s ← (s.openHere .blockMapping).dropKey
    .ok { s.mark 1 .key with keyAllowed := !s.inFlow }

/-- The colon behind the key that started at `k`. -/
def valueOf (s : Lexer) (k : PossibleKey) : Lexer :=
  let s := { s with
    keys := s.keys.filter (·.depth != k.depth)
    tokens := s.tokens.insertIdxIfInBounds k.number .key }
  { (s.openBlock k.cursor.column k.number .blockMapping).mark 1 .value with keyAllowed := false }

/-- A colon: behind a possible key, or alone. -/
def markValue (s : Lexer) : Except Fault Lexer := do
  match s.keys.find? (·.depth == s.flows.length) with
  | some k => .ok (s.valueOf k)
  | none =>
    if !s.inFlow && !s.keyAllowed then .error .malformed
    else
      let s ← (s.openHere .blockMapping).dropKey
      .ok { s.mark 1 .value with keyAllowed := !s.inFlow }

/-! ## Nodes -/

/-- A token that may be part of a key. -/
def word (s : Lexer) (read : Cursor → Except Fault (Token × Cursor)) : Except Fault Lexer := do
  let s ← s.saveKey
  let (t, cursor) ← read s.cursor
  .ok { s.push t with cursor, keyAllowed := false }

def name (s : Lexer) (token : String → Token) : Except Fault Lexer :=
  s.word fun cur => do
    let (n, cur) ← anchorName cur.next
    .ok (token n, cur)

def quoted (s : Lexer) (style : Quoted.Style) : Except Fault Lexer :=
  s.word fun cur => do
    let (t, cur) ← Quoted.body style cur.next
    .ok (.scalar t false, cur)

def block (s : Lexer) (style : Block.Style) : Except Fault Lexer := do
  let s ← s.dropKey
  let (t, cursor) ← Block.scan style s.margin s.cursor.next
  .ok { s.push (.scalar t false) with cursor, keyAllowed := true }

def plain (s : Lexer) : Except Fault Lexer := do
  let s ← s.saveKey
  let p := Plain.scan s.inFlow s.margin s.cursor
  .ok { s.push (.scalar (String.ofList p.text) true) with cursor := p.cursor, keyAllowed := p.crossed }

/-! ## Texts -/

/-- Whether a colon here stands for a value. `isPending` tells whether a key was possible
    in front of the blanks. -/
def startsValue (s : Lexer) ( isPending : Bool) : Bool :=
  let gapped := endsWord s.cursor.second
  match s.flows with
  | [] => gapped
  | .sequence :: _ => gapped
  | .mapping :: _ => gapped || !(isPending && s.tokens.back? == some .value)

/-- The token that starts with `c` here. -/
def token (s : Lexer) ( isPending : Bool) (c : Char) : Except Fault Lexer :=
  let cur := s.cursor
  let gapped := endsWord cur.second
  if cur.column == 0 && c == '%' then do
    let s ← s.endAll
    let (t, cursor) ← directive cur.next
    .ok { s.push t with cursor }
  else if cur.column == 0 && cur.atMark '-' then do
    let s ← s.endAll
    .ok (s.mark 3 .documentStart)
  else if cur.column == 0 && cur.atMark '.' then do
    let s ← s.endAll
    .ok (s.mark 3 .documentEnd)
  else if c == '[' then s.openFlow .sequence
  else if c == '\x7b' then s.openFlow .mapping
  else if c == ']' then s.closeFlow .sequence
  else if c == '\x7d' then s.closeFlow .mapping
  else if c == ',' then s.separate
  else if c == '-' && gapped then s.enter
  else if c == '?' && (s.inFlow || gapped) then s.markKey
  else if c == ':' && s.startsValue isPending then s.markValue
  else if c == '*' then s.name .reference
  else if c == '&' then s.name .anchor
  else if c == '!' then s.word fun cur => do
    let (t, cur) ← tagAt cur
    .ok (.tag t, cur)
  else if c == '|' && !s.inFlow then s.block .literal
  else if c == '>' && !s.inFlow then s.block .folded
  else if c == '\'' then s.quoted .single
  else if c == '"' then s.quoted .double
  else if Plain.startsAt s.inFlow cur then s.plain
  else .error .malformed

/-- The tokens from here on. -/
def runWithin : Nat → Lexer → Except Fault (Array Token)
  | 0, _ => .error .malformed
  | fuel + 1, s => do
    let s ← s.dropStale
    let isPending := !s.keys.isEmpty
    let s ← s.skipBlanks.dropStale
    let s := s.closeTo (s.cursor.column + 1)
    match s.cursor.peek with
    | none =>
      let s ← s.endAll
      .ok s.tokens
    | some c =>
      let s ← s.token isPending c
      runWithin fuel s

end Lexer

/-- The tokens of a text. -/
def tokens (cs : List Char) : Except Fault (List Token) := do
  if cs.all isAllowed then
    let ts ← Lexer.runWithin (cs.length + 1) (Lexer.start cs)
    .ok ts.toList
  else .error .malformed

end ApiJourney.Yaml
