-- SUMMARY: The nodes of YAML documents, made from tokens.
import ApiJourney.Yaml.Token

/-!
# Nodes

A document is a tree of nodes: scalars, sequences and mappings. Where a node may be left
out, it is an empty plain scalar. A reference stands for the node with its anchor, which
must be complete.
-/

namespace ApiJourney.Yaml

inductive Node where
  | scalar (tag : Option Tag) (text : String) ( isPlain : Bool)
  | sequence (tag : Option Tag) (items : List Node)
  | mapping (tag : Option Tag) (entries : List (Node × Node))

namespace Node

def empty : Node := .scalar none "" true

/-- Tokens partly read, and the nodes with anchors so far, the last ones first. -/
structure Reading where
  tokens : List Token
  anchors : List (String × Node)

/-- A step of reading; tokens that make no node are malformed. -/
abbrev Reader := StateT Reading (Except Fault)

/-! ## Single tokens -/

def refuse : Reader α := throw Fault.malformed

/-- The next token, which stays. -/
def peek : Reader (Option Token) := do
  return (← get).tokens.head?

def drop : Reader Unit :=
  modify fun r => { r with tokens := r.tokens.tail }

/-- Takes the next token if it is `t`. -/
def take (t : Token) : Reader Bool := do
  if (← peek) == some t then
    drop
    return true
  else return false

def expect (t : Token) : Reader Unit := do
  if ← take t then return () else refuse

/-- Whether the next token is one of the given ones. -/
def nextIn (ts : List Token) : Reader Bool := do
  return ((← peek).map ts.contains).getD false

/-! ## Properties -/

/-- What stands in front of the content of a node. -/
structure Properties where
  anchor : Option String
  tag : Option Tag

def anchor? : Reader (Option String) := do
  match ← peek with
  | some (.anchor name) =>
    drop
    return some name
  | _ => return none

def tag? : Reader (Option Tag) := do
  match ← peek with
  | some (.tag t) =>
    drop
    return some t
  | _ => return none

/-- An anchor and a tag, in any order. -/
def properties : Reader Properties := do
  match ← anchor? with
  | some name => return ⟨some name, ← tag?⟩
  | none =>
    match ← tag? with
    | some t => return ⟨← anchor?, some t⟩
    | none => return ⟨none, none⟩

def Properties.isEmpty (p : Properties) : Bool :=
  p.anchor.isNone && p.tag.isNone

def named (p : Properties) (n : Node) : Reader Node := do
  match p.anchor with
  | some name => modify fun r => { r with anchors := (name, n) :: r.anchors }
  | none => pure ()
  return n

/-- The node with an anchor. -/
def referred (name : String) : Reader Node := do
  match (← get).anchors.lookup name with
  | some n => return n
  | none => refuse

/-! ## Collections -/

/-- Where the nodes may stand that a place takes. -/
inductive Place where
  /-- In a flow collection. -/
  | flow
  | block
  /-- In a block mapping, where a sequence needs no deeper indentation. -/
  | mapping
  deriving DecidableEq

mutual

/-- A node. -/
def node (place : Place) : Nat → Reader Node
  | 0 => refuse
  | fuel + 1 => do
    match ← peek with
    | some (.reference name) =>
      drop
      referred name
    | _ =>
      let p ← properties
      match ← peek with
      | some (.scalar text isPlain) =>
        drop
        named p (.scalar p.tag text isPlain)
      | some (.opening .sequence) =>
        drop
        named p (.sequence p.tag (← flowItems true fuel))
      | some (.opening .mapping) =>
        drop
        named p (.mapping p.tag (← flowEntries true fuel))
      | next =>
        if next == some .entry && place == .mapping then named p (.sequence p.tag (← looseItems fuel))
        else if next == some .blockSequence && place != .flow then
          drop
          named p (.sequence p.tag (← blockItems fuel))
        else if next == some .blockMapping && place != .flow then
          drop
          named p (.mapping p.tag (← blockEntries fuel))
        else if p.isEmpty then refuse
        else named p (.scalar p.tag "" true)

/-- A node, or an empty one in front of some tokens. -/
def nodeUnless (stops : List Token) (place : Place) : Nat → Reader Node
  | 0 => refuse
  | fuel + 1 => do
    if ← nextIn stops then return empty else node place fuel

/-- The items of a block sequence, to its end. -/
def blockItems : Nat → Reader (List Node)
  | 0 => refuse
  | fuel + 1 => do
    if ← take .entry then
      let item ← nodeUnless [.entry, .blockEnd] .block fuel
      return item :: (← blockItems fuel)
    else
      expect .blockEnd
      return []

/-- The items of a sequence that is indented no deeper than the mapping around. -/
def looseItems : Nat → Reader (List Node)
  | 0 => refuse
  | fuel + 1 => do
    if ← take .entry then
      let item ← nodeUnless [.entry, .key, .value, .blockEnd] .block fuel
      return item :: (← looseItems fuel)
    else return []

/-- A value with the colon in front, or an empty one. -/
def valueUnless (stops : List Token) (place : Place) : Nat → Reader Node
  | 0 => refuse
  | fuel + 1 => do
    if ← take .value then nodeUnless stops place fuel else return empty

/-- The entries of a block mapping, to its end. -/
def blockEntries : Nat → Reader (List (Node × Node))
  | 0 => refuse
  | fuel + 1 => do
    let stops : List Token := [.key, .value, .blockEnd]
    let isMarked ← take .key
    if isMarked || (← nextIn [.value]) then
      let key ← if isMarked then nodeUnless stops .mapping fuel else pure empty
      let value ← valueUnless stops .mapping fuel
      return (key, value) :: (← blockEntries fuel)
    else
      expect .blockEnd
      return []

/-- The items of a flow sequence, to its end. A key makes a mapping of one entry. -/
def flowItems ( isFirst : Bool) : Nat → Reader (List Node)
  | 0 => refuse
  | fuel + 1 => do
    if ← take (.closing .sequence) then return []
    else
      if !isFirst then expect .separator
      if ← take (.closing .sequence) then return []
      else if ← take .key then
        let key ← nodeUnless [.value, .separator, .closing .sequence] .flow fuel
        let value ← valueUnless [.separator, .closing .sequence] .flow fuel
        return .mapping none [(key, value)] :: (← flowItems false fuel)
      else
        let item ← node .flow fuel
        return item :: (← flowItems false fuel)

/-- The entries of a flow mapping, to its end. A node without a key mark is a key without
    a value. -/
def flowEntries ( isFirst : Bool) : Nat → Reader (List (Node × Node))
  | 0 => refuse
  | fuel + 1 => do
    if ← take (.closing .mapping) then return []
    else
      if !isFirst then expect .separator
      if ← take (.closing .mapping) then return []
      else
        let isMarked ← take .key
        if isMarked || (← nextIn [.value]) then
          let key ← if isMarked then nodeUnless [.value, .separator, .closing .mapping] .flow fuel
            else pure empty
          let value ← valueUnless [.separator, .closing .mapping] .flow fuel
          return (key, value) :: (← flowEntries false fuel)
        else
          let key ← node .flow fuel
          return (key, empty) :: (← flowEntries false fuel)

end

/-! ## Documents -/

/-- The directives in front of a document: at most one version, of the first kind. -/
def directives ( isVersioned : Bool) : List Token → Except Fault (List Token)
  | .directive none :: rest => directives isVersioned rest
  | .directive (some major) :: rest =>
    if isVersioned || major != 1 then .error .malformed else directives true rest
  | rest => .ok rest

/-- The node of the document that the tokens start with, and the tokens behind it. -/
def ofFront (ts : List Token) : Except Fault (Node × List Token) := do
  let (n, r) ← (node .block (3 * ts.length + 3)).run ⟨ts, []⟩
  .ok (n, r.tokens)

/-- A document behind its start mark; it may be empty. -/
def content (ts : List Token) : Except Fault (Node × List Token) :=
  match ts with
  | [] => .ok (empty, [])
  | .directive _ :: _ => .ok (empty, ts)
  | .documentStart :: _ => .ok (empty, ts)
  | .documentEnd :: _ => .ok (empty, ts)
  | _ => ofFront ts

/-- The document at the front. -/
def firstDocument (ts : List Token) : Except Fault (Node × List Token) :=
  match ts with
  | .directive _ :: _ => do
    match ← directives false ts with
    | .documentStart :: rest => content rest
    | _ => .error .malformed
  | .documentStart :: rest => content rest
  | _ => ofFront ts

/-- The node of the only document; no tokens are an empty document. -/
def ofTokens (ts : List Token) : Except Fault Node := do
  if ts.isEmpty then .ok empty
  else
    match ← firstDocument ts with
    | (n, []) => .ok n
    | (n, [.documentEnd]) => .ok n
    | _ => .error .malformed

end Node

end ApiJourney.Yaml
