-- SUMMARY: Indexing, slicing, repeating and joining sequences in transforms.
import ApiJourney.Fault
import ApiJourney.Transform.Arithmetic
import ApiJourney.Transform.Located

/-!
# Sequences

Texts, byte strings, lists and tuples are indexed from either end, cut into
slices, repeated and joined.
-/

namespace ApiJourney.Transform

/-- Numbers from here on are no sizes, nor are those below its negative. -/
def sizeLimit : Nat := Nat.pow 2 63

/-- A number that may be asked for as a size, whether or not there is room for it. -/
def isSize (n : Int) : Bool :=
  -(sizeLimit : Int) ≤ n && n < sizeLimit

/-- What a sequence holds, whatever its type. -/
inductive Sequence where
  | text (cs : List Char)
  | bytes (bs : List UInt8)
  | list (xs : List Located)
  | tuple (xs : List Located)

def sequence? (l : Located) : Option Sequence :=
  match l.value with
  | .text s => some (.text s.toList)
  | .bytes bs => some (.bytes bs)
  | .list xs => some (.list (Located.partsOf l.origin xs))
  | .tuple xs => some (.tuple (Located.partsOf l.origin xs))
  | _ => none

namespace Sequence

def located : Sequence → Located
  | .text cs => .fresh (.text (String.ofList cs))
  | .bytes bs => .fresh (.bytes bs)
  | .list xs => .list xs
  | .tuple xs => .tuple xs

def length : Sequence → Nat
  | .text cs => cs.length
  | .bytes bs => bs.length
  | .list xs => xs.length
  | .tuple xs => xs.length

/-- Lists are made anew by every operation; other sequences that come out whole are the same. -/
def isKept : Sequence → Bool
  | .list _ => false
  | _ => true

/-- One item as a value of its own. -/
def item? (s : Sequence) (i : Nat) : Option Located :=
  match s with
  | .text cs => cs[i]?.map fun c => .fresh (.text (String.ofList [c]))
  | .bytes bs => bs[i]?.map fun b => .fresh (.int b.toNat)
  | .list xs => xs[i]?
  | .tuple xs => xs[i]?

/-- The sequence with another list of items in place of its own. -/
def mapItems (s : Sequence) (f : {α : Type} → List α → List α) : Sequence :=
  match s with
  | .text cs => .text (f cs)
  | .bytes bs => .bytes (f bs)
  | .list xs => .list (f xs)
  | .tuple xs => .tuple (f xs)

end Sequence

def repeated (xs : List α) (n : Nat) : List α :=
  (List.replicate n xs).flatten

/-! ## Positions -/

/-- A bound of a slice, counted from the end when negative, between the ends. -/
def clampBound (length : Nat) (low high bound : Int) : Int :=
  let b := if bound < 0 then bound + length else bound
  max low (min high b)

/-- The positions from `start` towards `stop`; `count` bounds their number. -/
def stepsFrom (stop step : Int) : Nat → Int → List Nat
  | 0, _ => []
  | count + 1, i =>
    if (0 < step && i < stop) || (step < 0 && stop < i) then
      i.toNat :: stepsFrom stop step count (i + step)
    else []

def slicePositions (length : Nat) (start stop : Option Int) (step : Int) : List Nat :=
  let n : Int := length
  if 0 < step then
    stepsFrom ((stop.map (clampBound length 0 n)).getD n) step length
      ((start.map (clampBound length 0 n)).getD 0)
  else
    stepsFrom ((stop.map (clampBound length (-1) (n - 1))).getD (-1)) step length
      ((start.map (clampBound length (-1) (n - 1))).getD (n - 1))

def sliceItems (xs : List α) (start stop : Option Int) (step : Int) : List α :=
  let a := xs.toArray
  (slicePositions xs.length start stop step).filterMap fun i => a[i]?

/-! ## Subscripts -/

/-- A bound of a slice: null, or an integer. -/
def bound? (v : Value) : Except Fault (Option Int) :=
  match v with
  | .null => .ok none
  | v =>
    match v.int? with
    | some n => .ok (some n)
    | none => .error .wrongType

def indexed (s : Sequence) (i : Value) : Except Fault Located :=
  match i.int? with
  | none => .error .wrongType
  | some n =>
    let position := if n < 0 then n + s.length else n
    match (if position < 0 then none else s.item? position.toNat) with
    | some v => .ok v
    | none => .error .outOfRange

/-- The item of a sequence or the value of an object. -/
def subscript (target index : Located) : Except Fault Located :=
  match target.value with
  | .dict es =>
    if !index.value.hashable then .error .wrongType
    else match Located.find? (Located.entriesOf target.origin es) index with
      | some v => .ok v
      | none => .error .missingKey
  | _ =>
    match sequence? target with
    | some s => indexed s index.value
    | none => .error .wrongType

/-- A slice; texts and byte strings are written anew where it steps over items. -/
def cut (target : Located) (start stop step : Value) : Except Fault Located :=
  match sequence? target with
  | none => .error .wrongType
  | some s => do
    let step ← bound? step
    if step = some 0 then .error .badValue
    else
      let start ← bound? start
      let stop ← bound? stop
      let n := step.getD 1
      let slice := s.mapItems fun xs => sliceItems xs start stop n
      if n = 1 && s.isKept && slice.length = s.length then .ok target
      else if n = 1 then .ok slice.located
      else match s with
        | .text _ | .bytes _ => .ok (.written slice.located.value)
        | .list _ | .tuple _ => .ok slice.located

/-! ## Repetition and joining -/

/-- A sequence after itself `count` times; none of it for a negative count. -/
def repeatSequence (target : Located) (s : Sequence) (count : Int) : Except Fault Located :=
  if !isSize count then .error .overflow
  else if sizeLimit ≤ s.length * count.toNat then .error .overflow
  else if Nat.pow 2 34 ≤ s.length * count.toNat then .error .outOfMemory
  else if s.isKept && (s.length = 0 || count = 1) then .ok target
  else
    let all := if s.length = 0 then s else s.mapItems fun xs => repeated xs count.toNat
    match all with
    | .bytes bs => .ok ⟨.bytes bs, .copy⟩
    | all => .ok all.located

def mulValues (a b : Located) : Except Fault Located :=
  match sequence? a, sequence? b with
  | some s, none =>
    match b.value.int? with
    | some n => repeatSequence a s n
    | none => .error .wrongType
  | none, some s =>
    match a.value.int? with
    | some n => repeatSequence b s n
    | none => .error .wrongType
  | some _, some _ => .error .wrongType
  | none, none => (onNumbers mulNumbers a.value b.value).map .fresh

def addSequences : Sequence → Sequence → Except Fault Located
  | .text s, .text t => .ok (.fresh (.text (String.ofList (s ++ t))))
  | .bytes s, .bytes t => .ok (.fresh (.bytes (s ++ t)))
  | .list xs, .list ys => .ok (.list (xs ++ ys))
  | .tuple xs, .tuple ys => .ok (.tuple (xs ++ ys))
  | _, _ => .error .wrongType

/-- The sum of two numbers, or two sequences of one type in one. -/
def addValues (a b : Located) : Except Fault Located :=
  match sequence? a, sequence? b with
  | some s, some t => do
    let sum ← addSequences s t
    if s.isKept && s.length = 0 then .ok b
    else if s.isKept && t.length = 0 then .ok a
    else .ok sum
  | _, _ => (onNumbers addNumbers a.value b.value).map .fresh

/-! ## Membership -/

def isInfixOf (piece : List α) [BEq α] : List α → Bool
  | [] => piece.isEmpty
  | x :: rest => piece.isPrefixOf (x :: rest) || isInfixOf piece rest

def contains (container l : Located) : Except Fault Bool :=
  match container.value with
  | .text s =>
    match l.value with
    | .text t => .ok (isInfixOf t.toList s.toList)
    | _ => .error .wrongType
  | .bytes bs =>
    match l.value with
    | .bytes t => .ok (isInfixOf t bs)
    | v =>
      match v.int? with
      | some n => if 0 ≤ n && n < 256 then .ok (bs.any fun b => (b.toNat : Int) == n) else .error .badValue
      | none => .error .wrongType
  | .dict es =>
    if l.value.hashable then .ok (Located.find? (Located.entriesOf container.origin es) l).isSome
    else .error .wrongType
  | .list xs => .ok ((Located.partsOf container.origin xs).any (·.isFound l))
  | .tuple xs => .ok ((Located.partsOf container.origin xs).any (·.isFound l))
  | _ => .error .wrongType

end ApiJourney.Transform
