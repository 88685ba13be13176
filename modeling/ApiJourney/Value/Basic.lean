-- SUMMARY: The values that documents hold and transforms compute.
import ApiJourney.Number.Binary64

/-!
# Values

A value is what a JSON document can hold, extended by what transform
expressions can make besides: byte strings, tuples, objects with keys other
than texts, complex numbers and the ellipsis. Objects keep their insertion
order. Other documents and packages of fake data give values of further
classes, dates among them, which are only shown and written here.
-/

namespace ApiJourney

/-- A value of a further class: the word for its type, and how it is shown and written. -/
structure Foreign where
  typeName : String
  shown : Option String
  written : Option String
  deriving DecidableEq

inductive Value where
  | null
  | bool (b : Bool)
  | int (n : Int)
  | float (x : Float)
  | text (s : String)
  | bytes (bs : List UInt8)
  | list (items : List Value)
  | tuple (items : List Value)
  | dict (entries : List (Value × Value))
  | complex (re im : Float)
  | ellipsis
  | foreign (x : Foreign)

/-- The entries of an object, in insertion order. -/
abbrev Entries := List (Value × Value)

namespace Value

instance : Inhabited Value := ⟨.null⟩

/-- An object with the given fields. -/
def object (fields : List (String × Value)) : Value :=
  .dict (fields.map fun (k, v) => (.text k, v))

/-- The word for the type of a value. -/
def typeName : Value → String
  | .null => "NoneType"
  | .bool _ => "bool"
  | .int _ => "int"
  | .float _ => "float"
  | .text _ => "str"
  | .bytes _ => "bytes"
  | .list _ => "list"
  | .tuple _ => "tuple"
  | .dict _ => "dict"
  | .complex _ _ => "complex"
  | .ellipsis => "ellipsis"
  | .foreign x => x.typeName

/-- Null, false, zeros and empty containers do not hold. -/
def truthy : Value → Bool
  | .null => false
  | .bool b => b
  | .int n => n != 0
  | .float x => !(Binary64.reading x).isZero
  | .text s => !s.isEmpty
  | .bytes bs => !bs.isEmpty
  | .list xs => !xs.isEmpty
  | .tuple xs => !xs.isEmpty
  | .dict es => !es.isEmpty
  | .complex re im => !((Binary64.reading re).isZero && (Binary64.reading im).isZero)
  | .ellipsis => true
  | .foreign _ => true

/-- The number that an integer, a double or a truth value stands for. -/
def reading? : Value → Option Reading
  | .bool b => some (.ofInt (if b then 1 else 0))
  | .int n => some (.ofInt n)
  | .float x => some (Binary64.reading x)
  | _ => none

/-- Integers and doubles; truth values are not numbers. -/
def isNumber : Value → Bool
  | .int _ => true
  | .float _ => true
  | _ => false

/-- An integer, or a truth value as one. -/
def int? : Value → Option Int
  | .int n => some n
  | .bool b => some (if b then 1 else 0)
  | _ => none

def text? : Value → Option String
  | .text s => some s
  | _ => none

def isNull : Value → Bool
  | .null => true
  | _ => false

mutual

/-- How many containers are nested inside of each other. -/
def nesting : Value → Nat
  | .list xs => nestingOfItems xs + 1
  | .tuple xs => nestingOfItems xs + 1
  | .dict es => nestingOfEntries es + 1
  | _ => 0

def nestingOfItems : List Value → Nat
  | [] => 0
  | x :: rest => max x.nesting (nestingOfItems rest)

def nestingOfEntries : List (Value × Value) → Nat
  | [] => 0
  | (k, v) :: rest => max (max k.nesting v.nesting) (nestingOfEntries rest)

end

/-! ## Building values -/

/-- A part that may be missing is null then. -/
def ofOption (write : α → Value) : Option α → Value
  | none => .null
  | some a => write a

def ofList (write : α → Value) (xs : List α) : Value :=
  .list (xs.map write)

def texts (xs : List String) : Value :=
  ofList .text xs

/-- A dictionary from texts. -/
def ofMap (write : α → Value) (es : List (String × α)) : Value :=
  .object (es.map fun (k, a) => (k, write a))

def textMap (es : List (String × String)) : Value :=
  ofMap .text es

end Value

end ApiJourney
