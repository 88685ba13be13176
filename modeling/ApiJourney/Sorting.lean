-- SUMMARY: A stable sort by an order that may have no answer.
/-!
# Sorting

Items are sorted by a test for "before" that may fail, and a failure is the result of the
whole sort. Which pairs are tested, and in which order, is part of the result where the
test is no order: short lists are sorted by insertion behind the run at their front, long
ones in halves.
-/

namespace ApiJourney.Sorting

/-- Whether the first item stands before the second. -/
abbrev Test (ε α : Type) := α → α → Except ε Bool

variable {ε α : Type}

/-! ## Insertion -/

/-- The place of `x` in a sorted array, behind its equals, by halving. -/
def searchPlace (before : Test ε α) (a : Array α) (x : α) : Nat → Nat → Nat → Except ε Nat
  | 0, low, _ => .ok low
  | fuel + 1, low, high =>
    let mid := (low + high) / 2
    match (if low < high then a[mid]? else none) with
    | none => .ok low
    | some y => do
      if ← before x y then searchPlace before a x fuel low mid
      else searchPlace before a x fuel (mid + 1) high

/-- Inserts the rest, one after the other, into what is sorted already. -/
def insertAll (before : Test ε α) (sorted : Array α) : List α → Except ε (Array α)
  | [] => .ok sorted
  | x :: rest => do
    let place ← searchPlace before sorted x (sorted.size + 1) 0 sorted.size
    insertAll before ((sorted.toList.take place ++ x :: sorted.toList.drop place).toArray) rest

/-- The ascending run at the front behind `last`. -/
def ascendingRun (before : Test ε α) (last : α) : List α → Except ε (List α × List α)
  | [] => .ok ([], [])
  | x :: rest => do
    if ← before x last then .ok ([], x :: rest)
    else
      let (run, rest) ← ascendingRun before x rest
      .ok (x :: run, rest)

/-- The strictly descending run at the front behind `last`. -/
def descendingRun (before : Test ε α) (last : α) : List α → Except ε (List α × List α)
  | [] => .ok ([], [])
  | x :: rest => do
    if ← before x last then
      let (run, rest) ← descendingRun before x rest
      .ok (x :: run, rest)
    else .ok ([], x :: rest)

/-- Sorts a short list: the run at its front is kept or turned around, and the
    rest is inserted. -/
def insertionSorted (before : Test ε α) : List α → Except ε (List α)
  | [] => .ok []
  | [x] => .ok [x]
  | x :: y :: rest => do
    let (run, rest) ←
      if ← before y x then
        let (run, rest) ← descendingRun before y rest
        .ok ((x :: y :: run).reverse, rest)
      else
        let (run, rest) ← ascendingRun before y rest
        .ok (x :: y :: run, rest)
    let a ← insertAll before run.toArray rest
    .ok a.toList

/-! ## Merging -/

/-- Two sorted lists in one, equals of the first before those of the second. -/
def merge (before : Test ε α) : Nat → List α → List α → Except ε (List α)
  | 0, xs, ys => .ok (xs ++ ys)
  | _ + 1, [], ys => .ok ys
  | _ + 1, xs, [] => .ok xs
  | fuel + 1, x :: xs, y :: ys => do
    if ← before y x then
      let r ← merge before fuel (x :: xs) ys
      .ok (y :: r)
    else
      let r ← merge before fuel xs (y :: ys)
      .ok (x :: r)

/-- Lists of less than this length are sorted by insertion. -/
def shortLength : Nat := 64

def sortedWith (before : Test ε α) : Nat → List α → Except ε (List α)
  | 0, xs => insertionSorted before xs
  | fuel + 1, xs =>
    if xs.length < shortLength then insertionSorted before xs
    else do
      let half := xs.length / 2
      let l ← sortedWith before fuel (xs.take half)
      let r ← sortedWith before fuel (xs.drop half)
      merge before xs.length l r

end Sorting

/-- A stable sort. -/
def sorted {ε α : Type} (before : Sorting.Test ε α) (xs : List α) : Except ε (List α) :=
  Sorting.sortedWith before xs.length xs

end ApiJourney
