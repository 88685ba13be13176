-- SUMMARY: Values with where they come from, and the equality and order that know a value again.
import ApiJourney.Value.Order

/-!
# Located values

A value is a part of the extracted value, or was made on the way. Two values are one and
the same when they are the same part of the extracted value, or when there is only one such
value at all. Containers compare their parts so: a part is equal to itself, whatever it is,
while a NaN is equal to no other value.
-/

namespace ApiJourney.Transform

inductive Origin where
  /-- A part of the extracted value, by the positions that lead to it, the last one first. -/
  | part (path : List Nat)
  /-- Made on the way, from values with these origins. -/
  | made (parts : List Origin)
  /-- Written anew, and the same as no other value. -/
  | copy
  /-- The text of a truth value, of which there is one for each. -/
  | word

/-- The origins of the first `count` parts. -/
def Origin.parts (count : Nat) : Origin → List Origin
  | part path => (List.range count).map fun i => part (i :: path)
  | made origins => origins ++ List.replicate (count - origins.length) (made [])
  | _ => List.replicate count (made [])

structure Located where
  value : Value
  origin : Origin

namespace Located

/-- A value that was just made. -/
def fresh (v : Value) : Located := ⟨v, .made []⟩

/-- A text or a byte string that was written anew; there is only one empty one. -/
def written (v : Value) : Located := if v.truthy then ⟨v, .copy⟩ else fresh v

/-! ## Parts -/

/-- The parts of a container of the given origin. -/
def partsOf (o : Origin) (xs : List Value) : List Located :=
  xs.zipWith Located.mk (o.parts xs.length)

/-- The entries of an object of the given origin; a key and its value stand side by side. -/
def entriesOf (o : Origin) (es : Entries) : List (Located × Located) :=
  pairs (partsOf o (es.flatMap fun (k, v) => [k, v]))
where
  pairs : List Located → List (Located × Located)
    | k :: v :: rest => (k, v) :: pairs rest
    | _ => []

def list (xs : List Located) : Located :=
  ⟨.list (xs.map value), .made (xs.map origin)⟩

def tuple (xs : List Located) : Located :=
  ⟨.tuple (xs.map value), .made (xs.map origin)⟩

def dict (es : List (Located × Located)) : Located :=
  ⟨.dict (es.map fun (k, v) => (k.value, v.value)),
    .made (es.flatMap fun (k, v) => [k.origin, v.origin])⟩

/-- The items that a value is iterated by. -/
def iterate (l : Located) : Except Fault (List Located) :=
  match l.value with
  | .list xs => .ok (partsOf l.origin xs)
  | .tuple xs => .ok (partsOf l.origin xs)
  | .dict es => .ok ((entriesOf l.origin es).map Prod.fst)
  | v => v.iterate.map (·.map fresh)

/-! ## Identity -/

/-- Values of which there is only one, so that equal ones are the same. -/
def isShared : Value → Bool
  | .null => true
  | .bool _ => true
  | .ellipsis => true
  | .int n => -5 ≤ n && n ≤ 256
  | .text s => s.isEmpty || (s.length = 1 && s.toList.all (·.toNat < 256))
  | .bytes bs => bs.length ≤ 1
  | .tuple xs => xs.isEmpty
  | _ => false

def isSameShared (a b : Value) : Bool :=
  a.typeName == b.typeName && isShared a && isShared b && a.sameKey b

/-- Whether two values are one and the same. -/
def isSame (a b : Located) : Bool :=
  match a.origin, b.origin with
  | .copy, _ => false
  | _, .copy => false
  | .part p, .part q => p == q || isSameShared a.value b.value
  | .word, .word => a.value.sameKey b.value
  | _, _ => isSameShared a.value b.value

/-! ## Equality -/

mutual

/-- Equality of values of the given origins. -/
def equalAt (o p : Origin) : Value → Value → Bool
  | .list xs, .list ys => equalItems (o.parts xs.length) (partsOf p ys) xs
  | .tuple xs, .tuple ys => equalItems (o.parts xs.length) (partsOf p ys) xs
  | .dict es, .dict fs =>
    es.length == fs.length && equalEntries (o.parts (2 * es.length)) (entriesOf p fs) es
  | a, b => a.sameAtom b

def equalItems : List Origin → List Located → List Value → Bool
  | o :: os, y :: ys, x :: xs =>
    (isSame ⟨x, o⟩ y || equalAt o y.origin x y.value) && equalItems os ys xs
  | _, ys, xs => ys.isEmpty && xs.isEmpty

/-- Each entry has one with the same key and an equal value. -/
def equalEntries : List Origin → List (Located × Located) → List (Value × Value) → Bool
  | ko :: o :: os, fs, (k, v) :: rest =>
    (match fs.find? fun (key, _) => isSame ⟨k, ko⟩ key || equalAt ko key.origin k key.value with
      | some (_, w) => isSame ⟨v, o⟩ w || equalAt o w.origin v w.value
      | none => false)
      && equalEntries os fs rest
  | _, _, rest => rest.isEmpty

end

def equal (a b : Located) : Bool :=
  equalAt a.origin b.origin a.value b.value

/-- Equality as membership tests it: a value is found as itself. -/
def isFound (a b : Located) : Bool :=
  isSame a b || equal a b

/-! ## Order -/

mutual

/-- The order of values of the given origins. -/
def orderedAt (op : OrderOp) (o p : Origin) : Value → Value → Except Fault Bool
  | .list xs, .list ys => orderedItems op (o.parts xs.length) (partsOf p ys) xs
  | .tuple xs, .tuple ys => orderedItems op (o.parts xs.length) (partsOf p ys) xs
  | a, b => Value.atomOrdered op a b

/-- Lists are ordered by the first items that differ, else by their lengths. -/
def orderedItems (op : OrderOp) :
    List Origin → List Located → List Value → Except Fault Bool
  | o :: os, y :: ys, x :: xs =>
    if isFound ⟨x, o⟩ y then orderedItems op os ys xs else orderedAt op o y.origin x y.value
  | _, ys, xs => .ok (op.holds (compare xs.length ys.length))

end

def ordered (op : OrderOp) (a b : Located) : Except Fault Bool :=
  orderedAt op a.origin b.origin a.value b.value

/-! ## Objects -/

/-- The value under a key. -/
def find? (es : List (Located × Located)) (key : Located) : Option Located :=
  (es.find? fun (k, _) => isFound k key).map Prod.snd

/-- A new key goes to the end; a known one keeps its place and its spelling. -/
def insert (key value : Located) : List (Located × Located) → List (Located × Located)
  | [] => [(key, value)]
  | (k, v) :: rest => if isFound k key then (k, value) :: rest else (k, v) :: insert key value rest

end Located

end ApiJourney.Transform
