-- SUMMARY: Reading YAML documents as values.
import ApiJourney.Value.Equality
import ApiJourney.Yaml.Node
import ApiJourney.Yaml.Scalar
import ApiJourney.Yaml.Token.Lexer

/-!
# YAML documents

A document is read as a value. A key stands in its mapping once, unless others are merged
into the mapping: then those come first, and later values replace earlier ones. A sequence
as a key is a tuple, and a mapping is no key.
-/

namespace ApiJourney.Yaml

/-! ## Scalars with tags -/

/-- The truth values by the words for them. -/
def truthWords : List (String × Bool) :=
  [("yes", true), ("no", false), ("y", true), ("n", false), ("true", true), ("false", false),
   ("on", true), ("off", false)]

/-- A scalar that a tag says to be of a kind. -/
def taggedScalar (kind text : String) : Except Fault Value :=
  let cs := text.toList
  match kind with
  | "str" => .ok (.text text)
  | "null" => .ok .null
  | "int" => Scalar.integer cs
  | "float" => (Scalar.decimal? cs).getD (.error .badValue)
  | "bool" =>
    match truthWords.lookup (String.ofList (Numeral.asciiLower cs)) with
    | some b => .ok (.bool b)
    | none => .error .missingKey
  | _ => .error .malformed

def scalarValue (tag : Option Tag) (text : String) ( isPlain : Bool) : Except Fault Value :=
  match tag with
  | none => if isPlain then Scalar.value text else .ok (.text text)
  | some .bare => Scalar.value text
  | some (.core kind) => taggedScalar kind text
  | some .other => .error .malformed

/-- Whether a collection may have a tag. -/
def fits (kind : String) (tag : Option Tag) : Bool :=
  tag == none || tag == some .bare || tag == some (.core kind)

/-! ## Mappings -/

/-- A value as a key. -/
def keyOf : Value → Except Fault Value
  | .dict _ => .error .malformed
  | v =>
    let key := match v with
      | .list xs => Value.tuple xs
      | v => v
    if key.hashable then .ok key else .error .wrongType

/-- The entries that a value brings into the mapping that it is merged into. The first one
    of several mappings comes last, as it counts most. -/
def mergedEntries : Value → Except Fault Entries
  | .dict es => .ok es
  | .list xs => do
    let parts ← xs.mapM fun
      | .dict es => Except.ok es
      | _ => .error .malformed
    .ok parts.reverse.flatten
  | _ => .error .malformed

/-- What an entry says: a key with its value, or entries to be merged. -/
inductive Field where
  | own (key value : Value)
  | merged (entries : Entries)

def Field.own? : Field → Option (Value × Value)
  | own k v => some (k, v)
  | merged _ => none

def Field.merged? : Field → Option Entries
  | own _ _ => none
  | merged es => some es

/-- Entries none of which repeats a key. -/
def distinct (so : Entries) : Entries → Except Fault Entries
  | [] => .ok so
  | (k, v) :: rest => if so.contains k then .error .malformed else distinct (so ++ [(k, v)]) rest

def mappingOf (fields : List Field) : Except Fault Value :=
  let own := fields.filterMap Field.own?
  match fields.filterMap Field.merged? with
  | [] => do
    let es ← distinct [] own
    .ok (.dict es)
  | [es] => .ok (.dict (Entries.ofList (es ++ own)))
  | _ => .error .malformed

/-! ## Nodes -/

/-- Whether a node is the key for merging. -/
def Node.isMergeKey : Node → Bool
  | .scalar none text isPlain => isPlain && text == Scalar.mergeKey
  | _ => false

/-- The text of the word for a default value, which is a text as a key. -/
def Node.defaultKey? : Node → Option Value
  | .scalar none text isPlain =>
    if isPlain && text == Scalar.defaultWord then some (.text text) else none
  | _ => none

mutual

/-- The value of a node. -/
def Node.value : Node → Except Fault Value
  | .scalar tag text isPlain => scalarValue tag text isPlain
  | .sequence tag items => do
    let xs ← Node.values items
    if fits "seq" tag then .ok (.list xs) else .error .malformed
  | .mapping tag entries => do
    let fields ← Node.fields entries
    if fits "map" tag then mappingOf fields else .error .malformed

def Node.values : List Node → Except Fault (List Value)
  | [] => .ok []
  | n :: rest => do
    let x ← n.value
    let xs ← Node.values rest
    .ok (x :: xs)

def Node.fields : List (Node × Node) → Except Fault (List Field)
  | [] => .ok []
  | (k, v) :: rest => do
    let field ←
      if k.isMergeKey then do
        let merged ← mergedEntries (← v.value)
        pure (Field.merged merged)
      else do
        let key ← match k.defaultKey? with
          | some key => pure key
          | none => k.value
        let key ← keyOf key
        let value ← v.value
        pure (Field.own key value)
    let fields ← Node.fields rest
    .ok (field :: fields)

end

/-- The value of a YAML text. -/
def read (cs : List Char) : Except Fault Value := do
  let ts ← tokens cs
  let n ← Node.ofTokens ts
  n.value

end ApiJourney.Yaml
