-- SUMMARY: Recursive descent comes to every node of a document once, before the nodes below it.
import ApiJourney.Proofs.Query.Spelling

/-!
# Recursive descent

A stack of nodes stands for the nodes on it and all nodes below them. Taking the last node off and
putting its children there instead, the first of them last, leaves the nodes that are still to come
in the same order, so the nodes that were taken and the ones to come are the same list all along:
the pre-order of the document. Descending to all children meets every node but the document itself
once, and descending to a name meets the values under that name.
-/

namespace ApiJourney

namespace Query

open Text
open scoped List

/-! ## Pre-order -/

mutual

/-- A node, and behind it what is below each of its children, in their order. -/
def preorder : Value → List Value
  | .dict es => .dict es :: preorderEntries es
  | .list xs => .list xs :: preorderItems xs
  | v => [v]

def preorderItems : List Value → List Value
  | [] => []
  | x :: rest => preorder x ++ preorderItems rest

def preorderEntries : List (Value × Value) → List Value
  | [] => []
  | (_, v) :: rest => preorder v ++ preorderEntries rest

end

theorem preorderItems_eq (xs : List Value) : preorderItems xs = xs.flatMap preorder := by
  induction xs with
  | nil => rfl
  | cons x xs ih => rw [preorderItems, ih, List.flatMap_cons]

theorem preorderEntries_eq (es : List (Value × Value)) :
    preorderEntries es = (es.map Prod.snd).flatMap preorder := by
  induction es with
  | nil => rfl
  | cons e es ih => rw [preorderEntries, ih, List.map_cons, List.flatMap_cons]

theorem preorder_eq (node : Value) : preorder node = node :: (children node).flatMap preorder := by
  cases node with
  | dict es => rw [preorder, preorderEntries_eq, children]
  | list xs => rw [preorder, preorderItems_eq, children]
  | _ => rfl

theorem sizeOf_le_totalSize {nodes : List Value} {node : Value} (h : node ∈ nodes) :
    sizeOf node ≤ totalSize nodes := by
  induction nodes with
  | nil => cases h
  | cons other nodes ih =>
    rw [totalSize]
    rcases List.mem_cons.1 h with rfl | h
    · exact Nat.le_add_right _ _
    · exact (ih h).trans (Nat.le_add_left _ _)

/-- What holds of a node as soon as it holds of the node's children holds of every node. -/
theorem children_induction {P : Value → Prop}
    (h : ∀ node, (∀ child ∈ children node, P child) → P node) (node : Value) : P node := by
  induction hn : sizeOf node using Nat.strongRecOn generalizing node with
  | _ n ih =>
    subst hn
    refine h node fun child hchild => ih _ ?_ child rfl
    calc sizeOf child ≤ totalSize (children node) := sizeOf_le_totalSize hchild
      _ < sizeOf node := totalSize_children_lt node

/-! ## Traversal -/

/-- The nodes that are to come from a stack. -/
def pending (stack : Array Value) : List Value :=
  stack.toList.reverse.flatMap preorder

/-- One step: the last node comes first, and then what its children stand for. -/
theorem pending_push (stack : Array Value) (node : Value) :
    pending (stack.push node) = node :: pending (stack ++ (children node).reverse.toArray) := by
  simp [pending, preorder_eq node]

/-- What was taken and what is to come make up the same list from the first step to the last. -/
theorem traverse_eq (taken stack : Array Value) :
    (traverse taken stack).toList = taken.toList ++ pending stack := by
  fun_induction traverse taken stack with
  | case1 taken stack hnone =>
    obtain rfl : stack = #[] := by simpa using hnone
    simp [pending]
  | case2 taken stack node hsome ih =>
    obtain ⟨rest, rfl⟩ := Array.back?_eq_some_iff.1 hsome
    rw [ih, pending_push, Array.pop_push]
    simp

theorem descendantsOrSelf_eq (node : Value) : descendantsOrSelf node = preorder node := by
  rw [descendantsOrSelf, traverse_eq, preorder_eq]
  simp [pending]

/-- The children of all nodes are the nodes of the document except for itself. -/
theorem flatMap_children_perm (document : Value) :
    ((preorder document).flatMap children).Perm (preorder document).tail := by
  induction document using children_induction with
  | h node ih =>
    have hparts : ∀ child ∈ children node,
        preorder child = [child] ++ (preorder child).tail := fun child _ => by
      rw [preorder_eq]
      rfl
    calc (preorder node).flatMap children
        = children node ++
            (children node).flatMap fun child => (preorder child).flatMap children := by
          rw [preorder_eq node, List.flatMap_cons, List.flatMap_assoc]
      _ = (children node).flatMap (fun child => [child]) ++
            (children node).flatMap fun child => (preorder child).flatMap children := by
          rw [List.flatMap_singleton']
      _ ~ (children node).flatMap (fun child => [child]) ++
            (children node).flatMap fun child => (preorder child).tail :=
          (List.Perm.flatMap_left _ ih).append_left _
      _ ~ (children node).flatMap fun child => [child] ++ (preorder child).tail :=
          List.flatMap_append_perm _ _ _
      _ = (children node).flatMap preorder := (List.flatMap_congr hparts).symm
      _ = (preorder node).tail := by rw [preorder_eq node, List.tail_cons]

/-! ## Values under a name -/

/-- The values of an object under a name. -/
def valuesUnder (name : String) : Value → List Value
  | .dict es => es.filterMap fun e => if e.1.text? = some name then some e.2 else none
  | _ => []

/-- All values under a name anywhere in a document, in pre-order of the objects that hold them. -/
def allUnder (name : String) (document : Value) : List Value :=
  (preorder document).flatMap (valuesUnder name)

theorem sameKey_text_iff {key : Value} {name : String} :
    key.sameKey (.text name) = true ↔ key.text? = some name := by
  cases key <;> simp [Value.sameKey, Value.sameAtom, Value.parts?, Value.reading?, Value.text?]

/-- In an object that holds no key twice the value that is found is the only one. -/
theorem toList_get? {es : Entries} (h : Value.keyedEntries es = true) (name : String) :
    (es.get? name).toList = valuesUnder name (.dict es) := by
  induction es with
  | nil => rfl
  | cons e es ih =>
    obtain ⟨key, v⟩ := e
    obtain ⟨hfresh, -, hes⟩ := Value.keyedEntries_cons.1 h
    have hrest := ih hes
    rw [Entries.get?] at hrest
    rw [valuesUnder] at hrest ⊢
    rw [Entries.get?, Entries.find?_cons, List.filterMap_cons]
    by_cases hkey : key.text? = some name
    · have hnone : Entries.find? es (.text name) = none := by
        rw [← Entries.find?_congr (sameKey_text_iff.2 hkey), hfresh]
      rw [hnone] at hrest
      rw [if_pos (sameKey_text_iff.2 hkey), if_pos hkey, ← hrest]
      rfl
    · rw [if_neg (mt sameKey_text_iff.1 hkey), if_neg hkey, hrest]

/-- Below a document without repeated keys are nodes without repeated keys. -/
theorem isKeyed_of_mem_preorder {document node : Value} (h : document.isKeyed = true)
    (hnode : node ∈ preorder document) : node.isKeyed = true := by
  induction document using children_induction with
  | h document ih =>
    rw [preorder_eq, List.mem_cons, List.mem_flatMap] at hnode
    rcases hnode with rfl | ⟨child, hchild, hnode⟩
    · exact h
    · refine ih child hchild ?_ hnode
      cases document with
      | dict es =>
        obtain ⟨e, he, rfl⟩ := List.mem_map.1 hchild
        exact Value.isKeyed_of_mem h he
      | list xs => exact Value.keyedItems_iff.1 h child hchild
      | _ => cases hchild

/-- A name that is no integer selects values of objects only. -/
theorem memberOf_name {name : String} (hinteger : isIntegerText name.toList = false) {node : Value}
    (h : node.isKeyed = true) : memberOf node (.name name) = .ok (valuesUnder name node) := by
  cases node with
  | dict es => exact congrArg Except.ok (toList_get? h name)
  | list xs =>
    rw [memberOf, listPosition?, hinteger]
    rfl
  | _ => rfl

/-! ## Descending queries -/

theorem flatMapM_of_ok {f : α → Except ε (List β)} {g : α → List β} {xs : List α}
    (h : ∀ x ∈ xs, f x = .ok (g x)) : xs.flatMapM f = .ok (xs.flatMap g) := by
  induction xs with
  | nil => rfl
  | cons x xs ih =>
    rw [List.forall_mem_cons] at h
    rw [List.flatMapM_cons, h.1, ih h.2, List.flatMap_cons]
    rfl

theorem flatMapM_singleton (f : α → Except ε (List β)) (x : α) : [x].flatMapM f = f x := by
  rw [List.flatMapM_cons, List.flatMapM_nil]
  cases f x with
  | error e => rfl
  | ok ys => exact congrArg Except.ok (List.append_nil ys)

/-- A path of one selector matches what the selector selects from the document. -/
theorem evaluate_of_single {path : String} {s : Selector} (h : parse path = .ok [s])
    {document : Value} {found : List Value} (hs : select s [document] = .ok found) :
    evaluate path document = .ok found := by
  rw [evaluate_of_parse h, matchesFrom_cons, hs]
  rfl

theorem parse_descent {name : String} (h : PlainName name) :
    parse ("$.." ++ name) = .ok [.descend (.members [.name name])] := by
  have htext : (".." ++ name).toList = '.' :: '.' :: name.toList := String.toList_append
  have hend : trimEnd (".." ++ name).toList = (".." ++ name).toList := by
    rw [htext, trimEnd, dropEndWhile_cons (by decide), dropEndWhile_cons (by decide)]
    exact congrArg (fun cs => '.' :: '.' :: cs) (trimEnd_of_trim h.trimmed)
  refine parse_of_front hend fun fuel path => ?_
  rw [htext]
  exact h.frontBelow _

theorem select_descend (s : Selector) (document : Value) :
    select (.descend s) [document] = select s (preorder document) := by
  rw [select, List.flatMap_singleton, descendantsOrSelf_eq]

/-- The stack gives the pre-order of a document; descending to everything matches each node but the
    document once, and descending to a name matches the values under the name. -/
theorem descent_complete (document : Value) :
    descendantsOrSelf document = preorder document ∧
    (∃ found, evaluate "$..*" document = .ok found ∧ found ~ (preorder document).tail) ∧
    ∀ name, PlainName name → isIntegerText name.toList = false → document.isKeyed = true →
      evaluate ("$.." ++ name) document = .ok (allUnder name document) := by
  refine ⟨descendantsOrSelf_eq document, ⟨_, ?_, flatMap_children_perm document⟩,
    fun name hname hinteger hkeyed => evaluate_of_single (parse_descent hname) ?_⟩
  · have hread : parse "$..*" = .ok [.descend .wildcard] := by cbv
    refine evaluate_of_single hread ?_
    rw [select_descend, select]
  · rw [select_descend, select]
    refine flatMapM_of_ok fun node hnode => ?_
    rw [flatMapM_singleton]
    exact memberOf_name hinteger (isKeyed_of_mem_preorder hkeyed hnode)

/-- An order with a list of parts, where the name stands at three depths, once over another one. -/
def nestedOrder : Value :=
  .object [("id", .int 1), ("parts", .list [.object [("id", .object [("id", .null)])], .int 2]),
    ("name", .text "id")]

theorem descent_nestedOrder :
    PlainName "id" ∧ isIntegerText "id".toList = false ∧ nestedOrder.isKeyed = true ∧
      evaluate "$..id" nestedOrder =
        .ok [.int 1, .object [("id", .null)], .null] := by
  have hname : PlainName "id" := ⟨by decide, by simp [isNameChar], by decide, by decide⟩
  have hkeyed : nestedOrder.isKeyed = true := by decide
  exact ⟨hname, by decide, hkeyed, (descent_complete nestedOrder).2.2 "id" hname (by decide) hkeyed⟩

end Query

end ApiJourney
