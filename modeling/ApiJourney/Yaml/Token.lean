-- SUMMARY: The tokens of YAML texts, with the short ones read here.
import ApiJourney.Fault
import ApiJourney.Number.Numeral
import ApiJourney.Text.Digit
import ApiJourney.Text.Letter
import ApiJourney.Yaml.Block

/-!
# Tokens

The tokens of a text tell its structure: marks of documents, the starts and ends of
collections by indentation or by brackets, keys, values and entries, and the properties
and contents of nodes.
-/

namespace ApiJourney.Yaml

/-- Collections in brackets or braces. -/
inductive Flow where
  | sequence
  | mapping
  deriving DecidableEq

/-- A tag on a node. -/
inductive Tag where
  /-- A mark without a name: the node is what it would be without it. -/
  | bare
  /-- A tag of the standard kinds. -/
  | core (name : String)
  | other
  deriving DecidableEq

inductive Token where
  /-- A directive, with the major version if it names one. -/
  | directive (version : Option Nat)
  | documentStart
  | documentEnd
  | blockSequence
  | blockMapping
  | blockEnd
  | opening (flow : Flow)
  | closing (flow : Flow)
  | separator
  | entry
  | key
  | value
  | reference (name : String)
  | anchor (name : String)
  | tag (tag : Tag)
  | scalar (text : String) ( isPlain : Bool)
  deriving DecidableEq

/-! ## Anchors -/

/-- Whether a name may end in front of a character. -/
def endsName (c : Option Char) : Bool :=
  isGap c || (c.map fun c => c == '\t' || c == '?' || c == ':' || isFlowIndicator c || c == '%'
    || c == '@' || c.toNat == 96).getD true

/-- The name of an anchor or a reference, from behind its mark. -/
def anchorName (cur : Cursor) : Except Fault (String × Cursor) :=
  let (name, cur) := cur.run isNameChar
  if name.isEmpty || !endsName cur.peek then .error .malformed else .ok (String.ofList name, cur)

/-! ## Tags -/

/-- Characters of the words that tags are made of. -/
def isTagChar (c : Char) : Bool :=
  Text.isAsciiLetter c || Text.isAsciiDigit c || "-;/?:@&=+$,_.!~*'()[]%#".toList.contains c

/-- A tag by its name in full. -/
def Tag.ofName (name : List Char) : Tag :=
  let standard := "tag:yaml.org,2002:".toList
  if standard.isPrefixOf name then .core (String.ofList (name.drop standard.length)) else .other

/-- The tag at a place. -/
def tagAt (cur : Cursor) : Except Fault (Tag × Cursor) := do
  let cur := cur.next
  let named (cur : Cursor) (tag : List Char → Tag) : Except Fault (Tag × Cursor) :=
    let (name, cur) := cur.run isTagChar
    if name.isEmpty then .error .malformed else .ok (tag name, cur)
  let (tag, cur) ←
    if cur.peek == some '<' then do
      let (tag, cur) ← named cur.next Tag.ofName
      if cur.peek == some '>' then pure (tag, cur.next) else throw Fault.malformed
    else if cur.peek == some '!' then named cur.next fun name => .core (String.ofList name)
    else if endsWord cur.peek then pure (.bare, cur)
    else named cur fun _ => .other
  if isGap cur.peek then .ok (tag, cur) else .error .malformed

/-! ## Directives -/

def isDirectiveChar (c : Char) : Bool :=
  Text.isAsciiLetter c || Text.isAsciiDigit c || c == '-' || c == '_' || c == ':' || c == '.'

/-- A number of a version. -/
def versionPart (cur : Cursor) : Except Fault (Nat × Cursor) :=
  let (digits, cur) := cur.run Text.isAsciiDigit
  if digits.isEmpty then .error .malformed
  else .ok (Numeral.ofDigits 10 (digits.map fun c => c.toNat - 48), cur)

/-- The two numbers of a version; the first one counts. -/
def version (cur : Cursor) : Except Fault (Nat × Cursor) := do
  let (major, cur) ← versionPart (cur.skipWhile (· == ' '))
  if cur.peek != some '.' then .error .malformed
  else
    let (_, cur) ← versionPart cur.next
    if isGap cur.peek then .ok (major, cur) else .error .malformed

/-- The directive on a line, from behind its mark. -/
def directive (cur : Cursor) : Except Fault (Token × Cursor) := do
  let (name, cur) := cur.run isDirectiveChar
  if name.isEmpty || !isGap cur.peek then .error .malformed
  else if name == "YAML".toList then
    let (major, cur) ← version cur
    let cur ← Block.lineEnd cur
    .ok (.directive (some major), cur)
  else
    let cur ← Block.lineEnd cur.toLineEnd
    .ok (.directive none, cur)

end ApiJourney.Yaml
