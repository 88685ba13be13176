-- SUMMARY: Equality of atoms, of keys, and the strict equality of conditions.
import ApiJourney.Value.Basic

/-!
# Equality

Atoms are equal when their numbers are equal, whatever their types. Keys are the
same when an object cannot hold both. The strict equality of conditions tells truth
values from numbers and never converts. Values are compared at any depth: the depth
at which a run is out of stack is not modelled.
-/

namespace ApiJourney

namespace Value

/-! ## Numbers -/

/-- Equality of two numbers by their exact value. -/
def sameNumber (a b : Reading) : Bool :=
  a.order b == some .eq

/-- The real and imaginary part of a number of any type. -/
def parts? : Value → Option (Reading × Reading)
  | .complex re im => some (Binary64.reading re, Binary64.reading im)
  | v => v.reading?.map fun r => (r, .ofInt 0)

/-- Equality of two values that hold no others. -/
def sameAtom (a b : Value) : Bool :=
  match a.parts?, b.parts? with
  | some (re, im), some (re', im') => sameNumber re re' && sameNumber im im'
  | _, _ =>
    match a, b with
    | .null, .null => true
    | .text s, .text t => s == t
    | .bytes s, .bytes t => s == t
    | .ellipsis, .ellipsis => true
    | .foreign x, .foreign y => x == y
    | _, _ => false

/-! ## Keys -/

/-- Lists and objects are not keys, nor tuples that hold them. -/
def hashable : Value → Bool
  | .list _ => false
  | .dict _ => false
  | .tuple xs => hashableAll xs
  | _ => true
where
  hashableAll : List Value → Bool
    | [] => true
    | x :: rest => hashable x && hashableAll rest

mutual

/-- Whether two keys take the same place in an object. -/
def sameKey : Value → Value → Bool
  | .tuple xs, .tuple ys => sameKeys xs ys
  | a, b => sameAtom a b

def sameKeys : List Value → List Value → Bool
  | [], [] => true
  | x :: xs, y :: ys => sameKey x y && sameKeys xs ys
  | _, _ => false

end

end Value

/-! ## Objects -/

namespace Entries

def find? (es : Entries) (key : Value) : Option Value :=
  match es with
  | [] => none
  | (k, v) :: rest => if k.sameKey key then some v else find? rest key

/-- A new key goes to the end; a known one keeps its place and its spelling. -/
def insert (es : Entries) (key value : Value) : Entries :=
  match es with
  | [] => [(key, value)]
  | (k, v) :: rest =>
    if k.sameKey key then (k, value) :: rest else (k, v) :: insert rest key value

def contains (es : Entries) (key : Value) : Bool :=
  (find? es key).isSome

/-- The value under a text key. -/
def get? (es : Entries) (key : String) : Option Value :=
  find? es (.text key)

def put (es : Entries) (key : String) (value : Value) : Entries :=
  insert es (.text key) value

/-- All entries of `new`, in order, put over those of `es`. -/
def update (es new : Entries) : Entries :=
  new.foldl (fun acc (k, v) => insert acc k v) es

/-- Entries in the order written, later ones over earlier ones. -/
def ofList (es : Entries) : Entries :=
  update [] es

end Entries

/-! ## Strict equality -/

namespace Value

mutual

/-- The equality of conditions: numbers by exact value, and no value equals one of
    another type. -/
def strictEqual : Value → Value → Bool
  | .bool a, .bool b => a == b
  | .bool _, _ => false
  | _, .bool _ => false
  | .list xs, .list ys => strictItems xs ys
  | .dict es, .dict fs =>
    es.length == fs.length && es.all (fun (k, _) => Entries.contains fs k) && strictEntries es fs
  | .int m, .int n => m == n
  | .int m, .float y => sameNumber (.ofInt m) (Binary64.reading y)
  | .float x, .int n => sameNumber (Binary64.reading x) (.ofInt n)
  | .float x, .float y => sameNumber (Binary64.reading x) (Binary64.reading y)
  | .null, .null => true
  | .text s, .text t => s == t
  | .bytes s, .bytes t => s == t
  | .tuple xs, .tuple ys => strictItems xs ys
  | .complex a b, .complex c d => sameAtom (.complex a b) (.complex c d)
  | .ellipsis, .ellipsis => true
  | .foreign x, .foreign y => x == y
  | _, _ => false

def strictItems : List Value → List Value → Bool
  | [], [] => true
  | x :: xs, y :: ys => strictEqual x y && strictItems xs ys
  | _, _ => false

def strictEntries : List (Value × Value) → List (Value × Value) → Bool
  | [], _ => true
  | (k, v) :: rest, fs =>
    (match Entries.find? fs k with
      | some w => strictEqual v w
      | none => false)
      && strictEntries rest fs

end

end Value

end ApiJourney
