-- SUMMARY: The nodes of a document that a query matches.
import ApiJourney.Query.Parser

/-!
# Matches of a query

Each selector maps the nodes matched so far, in order, to the nodes it selects
below them. A query that matches nothing ends early. A name that is too long an
integer for a position is a fault.
-/

namespace ApiJourney.Query

/-- The values of an object or the items of a list. -/
def children : Value → List Value
  | .dict es => es.map Prod.snd
  | .list xs => xs
  | _ => []

/-- The sizes of nodes taken together. -/
noncomputable def totalSize : List Value → Nat
  | [] => 0
  | node :: rest => sizeOf node + totalSize rest

theorem totalSize_append (xs ys : List Value) :
    totalSize (xs ++ ys) = totalSize xs + totalSize ys := by
  induction xs with
  | nil => exact (Nat.zero_add _).symm
  | cons x xs ih => rw [List.cons_append, totalSize, totalSize, ih, Nat.add_assoc]

theorem totalSize_reverse (xs : List Value) : totalSize xs.reverse = totalSize xs := by
  induction xs with
  | nil => rfl
  | cons x xs ih =>
    rw [List.reverse_cons, totalSize_append, ih, totalSize, totalSize, totalSize]
    omega

theorem sizeOf_pos (node : Value) : 0 < sizeOf node := by
  cases node <;>
    simp only [Value.null.sizeOf_spec, Value.bool.sizeOf_spec, Value.int.sizeOf_spec,
      Value.float.sizeOf_spec, Value.text.sizeOf_spec, Value.bytes.sizeOf_spec,
      Value.list.sizeOf_spec, Value.tuple.sizeOf_spec, Value.dict.sizeOf_spec,
      Value.complex.sizeOf_spec, Value.ellipsis.sizeOf_spec, Value.foreign.sizeOf_spec] <;> omega

/-- The children of a node are smaller than the node, also all of them together. -/
theorem totalSize_children_lt (node : Value) : totalSize (children node) < sizeOf node := by
  cases node with
  | dict es =>
    have htotal : totalSize (es.map Prod.snd) ≤ sizeOf es := by
      induction es with
      | nil => exact Nat.zero_le _
      | cons e es ih =>
        obtain ⟨k, v⟩ := e
        simp only [List.map_cons, totalSize, List.cons.sizeOf_spec, Prod.mk.sizeOf_spec]
        omega
    simp only [children, Value.dict.sizeOf_spec]
    omega
  | list xs =>
    have htotal : totalSize xs ≤ sizeOf xs := by
      induction xs with
      | nil => exact Nat.zero_le _
      | cons x xs ih =>
        simp only [totalSize, List.cons.sizeOf_spec]
        omega
    simp only [children, Value.list.sizeOf_spec]
    omega
  | _ => exact sizeOf_pos _

/-- Takes the last node off the stack and puts its children there instead, the first of them last,
    until no node is left. Gives the nodes in the order in which they were taken. -/
def traverse (taken stack : Array Value) : Array Value :=
  match _h : stack.back? with
  | none => taken
  | some node => traverse (taken.push node) (stack.pop ++ (children node).reverse.toArray)
termination_by totalSize stack.toList
decreasing_by
  obtain ⟨rest, rfl⟩ := Array.back?_eq_some_iff.1 _h
  have hless := totalSize_children_lt node
  simp only [Array.pop_push, Array.toList_append, Array.toList_push, totalSize_append,
    totalSize_reverse, totalSize]
  omega

/-- A node and all nodes below it, each before its children. -/
def descendantsOrSelf (node : Value) : List Value :=
  (traverse #[node] (children node).reverse.toArray).toList

/-! ## Members and slices -/

/-- The item at a position, counted from the end when negative. -/
def itemAt? (xs : List Value) (position : Int) : Option Value :=
  if 0 ≤ position then xs[position.toNat]?
  else if -(xs.length : Int) ≤ position then xs[(xs.length + position).toNat]?
  else none

/-- The position of a member in a list. -/
def listPosition? : Member → Except Fault (Option Int)
  | .index n => .ok (some n)
  | .name k =>
    if isIntegerText k.toList then (integerOf k.toList).map some else .ok none

def memberOf (node : Value) (m : Member) : Except Fault (List Value) :=
  match node with
  | .dict es =>
    let key := match m with
      | .name k => k
      | .index n => toString n
    .ok (Entries.get? es key).toList
  | .list xs => (listPosition? m).map fun p => (p.bind (itemAt? xs)).toList
  | _ => .ok []

/-- A bound of a slice, counted from the end when negative, between the ends. -/
def clamp (length : Nat) (low high : Int) (bound : Int) : Int :=
  let b := if bound < 0 then bound + length else bound
  max low (min high b)

/-- The positions from `start` towards `stop`; `count` bounds their number. -/
def walk (stop step : Int) : Nat → Int → List Int
  | 0, _ => []
  | count + 1, i =>
    if (0 < step && i < stop) || (step < 0 && stop < i) then i :: walk stop step count (i + step)
    else []

/-- The positions of a slice of a sequence of the given length. -/
def slicePositions (length : Nat) (start stop : Option Int) (step : Int) : List Int :=
  let n : Int := length
  if 0 < step then
    walk ((stop.map (clamp length 0 n)).getD n) step length ((start.map (clamp length 0 n)).getD 0)
  else
    walk ((stop.map (clamp length (-1) (n - 1))).getD (-1)) step length
      ((start.map (clamp length (-1) (n - 1))).getD (n - 1))

def sliced (xs : List α) (start stop : Option Int) (step : Int) : List α :=
  let a := xs.toArray
  (slicePositions xs.length start stop step).filterMap fun i => a[i.toNat]?

/-! ## Filters -/

/-- The order of two numbers or of two texts. -/
def order? : Value → Value → Option Ordering
  | .text s, .text t => some (compare s t)
  | a, b =>
    if a.isNumber && b.isNumber then do
      let x ← a.reading?
      let y ← b.reading?
      x.order y
    else none

def compares (op : Comparison) (v literal : Value) : Bool :=
  match op with
  | .eq => v.strictEqual literal
  | .ne => !v.strictEqual literal
  | .gt => order? v literal == some .gt
  | .ge => order? v literal == some .gt || order? v literal == some .eq
  | .lt => order? v literal == some .lt
  | .le => order? v literal == some .lt || order? v literal == some .eq

/-- The test on the matches of the relative query. -/
def passes (test : FilterTest) (found : List Value) : Bool :=
  match test, found with
  | .exist, found => !found.isEmpty
  | .compare _ _, [] => false
  | .compare op literal, v :: _ => compares op v literal

/-! ## Selectors -/

mutual

/-- The nodes that a selector selects below the given ones. -/
def select : Selector → List Value → Except Fault (List Value)
  | .members ms, nodes =>
    nodes.flatMapM fun node => ms.flatMapM (memberOf node)
  | .wildcard, nodes => .ok (nodes.flatMap children)
  | .slice start stop step, nodes =>
    .ok (nodes.flatMap fun node =>
      match node with
      | .list xs => sliced xs start stop (step.getD 1)
      | _ => [])
  | .filter relative test, nodes =>
    nodes.flatMapM fun node =>
      (children node).filterM fun child => do
        let found ← matchesFrom relative [child]
        .ok (passes test found)
  | .descend s, nodes => select s (nodes.flatMap descendantsOrSelf)

/-- The selectors one after the other, as long as something is matched. -/
def matchesFrom : List Selector → List Value → Except Fault (List Value)
  | [], nodes => .ok nodes
  | s :: rest, nodes => do
    let selected ← select s nodes
    if selected.isEmpty then .ok [] else matchesFrom rest selected

end

/-- All matches of a query in a document, in document order. -/
def run (q : Query) (document : Value) : Except Fault (List Value) :=
  matchesFrom q [document]

/-- The matches of the query that a text stands for. -/
def evaluate (path : String) (document : Value) : Except QueryFailure (List Value) := do
  let q ← parse path
  (run q document).mapError .fault

end ApiJourney.Query
