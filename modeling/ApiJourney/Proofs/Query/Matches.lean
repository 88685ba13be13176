-- SUMMARY: What a query matches are parts of the document, one at most if it only follows members.
import ApiJourney.Proofs.Query.Descent

/-!
# Matches

A selector selects parts of the nodes that it is applied to, so everything that a query matches is
the document or a part of it. A query that only follows members one by one has one match at most:
the node that they lead to, if there is one.
-/

namespace ApiJourney

namespace Query

open Text

/-! ## Parts -/

/-- A value is a document itself, or is reached from it by values of objects and items of lists. -/
inductive PartOf (v : Value) : Value → Prop where
  | self : PartOf v v
  | field {es : Entries} {e : Value × Value} : e ∈ es → PartOf v e.2 → PartOf v (.dict es)
  | item {xs : List Value} {x : Value} : x ∈ xs → PartOf v x → PartOf v (.list xs)

namespace PartOf

variable {v node document : Value}

theorem of_child {child : Value} (hchild : child ∈ children node) (h : PartOf v child) :
    PartOf v node := by
  cases node with
  | dict es =>
    obtain ⟨e, he, rfl⟩ := List.mem_map.1 hchild
    exact .field he h
  | list xs => exact .item hchild h
  | _ => cases hchild

theorem child (h : v ∈ children node) : PartOf v node :=
  .of_child h .self

theorem trans (h : PartOf v node) (hnode : PartOf node document) : PartOf v document := by
  induction hnode with
  | self => exact h
  | field he _ ih => exact .field he ih
  | item hx _ ih => exact .item hx ih

theorem of_mem_preorder (h : v ∈ preorder node) : PartOf v node := by
  induction node using children_induction with
  | h node ih =>
    rw [preorder_eq, List.mem_cons, List.mem_flatMap] at h
    rcases h with rfl | ⟨child, hchild, h⟩
    · exact .self
    · exact .of_child hchild (ih child hchild h)

theorem wellKeyed (h : PartOf v document) (hkeyed : document.isWellKeyed = true) :
    v.isWellKeyed = true := by
  induction h with
  | self => exact hkeyed
  | field he _ ih => exact ih (Value.wellKeyed_of_mem hkeyed he).2
  | item hx _ ih => exact ih (Value.wellKeyedItems_iff.1 hkeyed _ hx)

end PartOf

/-! ## Selected parts -/

theorem mem_children_of_find? {es : Entries} {key v : Value} (h : es.find? key = some v) :
    v ∈ children (.dict es) := by
  obtain ⟨k, hmem⟩ := Entries.exists_key_of_find? h
  exact List.mem_map_of_mem hmem

theorem mem_of_itemAt? {xs : List Value} {position : Int} {v : Value}
    (h : itemAt? xs position = some v) : v ∈ xs := by
  unfold itemAt? at h
  split_ifs at h
  · exact List.mem_of_getElem? h
  · exact List.mem_of_getElem? h

theorem mem_of_mem_sliced {xs : List Value} {start stop : Option Int} {step : Int} {v : Value}
    (h : v ∈ sliced xs start stop step) : v ∈ xs := by
  obtain ⟨position, -, hposition⟩ := List.mem_filterMap.1 h
  rw [List.getElem?_toArray] at hposition
  exact List.mem_of_getElem? hposition

theorem memberOf_children (node : Value) (m : Member) :
    Ensures (memberOf node m) (fun found => ∀ v ∈ found, v ∈ children node) fun _ => True := by
  unfold memberOf
  split
  · intro v hv
    exact mem_children_of_find? (Option.mem_toList.1 hv)
  · refine ((Ensures.vacuous (listPosition? m)).imp_ok (fun p _ v hv => ?_)).map
    obtain ⟨position, -, hposition⟩ := Option.bind_eq_some_iff.1 (Option.mem_toList.1 hv)
    exact mem_of_itemAt? hposition
  · exact nofun

/-- What is selected from some nodes are parts of these nodes. -/
theorem select_parts : ∀ (s : Selector) (nodes : List Value),
    Ensures (select s nodes) (fun found => ∀ v ∈ found, ∃ node ∈ nodes, PartOf v node)
      fun _ => True
  | .members ms, nodes => by
    rw [select]
    refine .flatMapM_all fun node hnode => .flatMapM_all fun m _ => ?_
    exact (memberOf_children node m).imp
      (fun found h v hv => ⟨node, hnode, .child (h v hv)⟩) fun _ h => h
  | .wildcard, nodes => by
    rw [select]
    intro v hv
    obtain ⟨node, hnode, hv⟩ := List.mem_flatMap.1 hv
    exact ⟨node, hnode, .child hv⟩
  | .slice start stop step, nodes => by
    rw [select]
    intro v hv
    obtain ⟨node, hnode, hv⟩ := List.mem_flatMap.1 hv
    split at hv
    · exact ⟨_, hnode, .child (mem_of_mem_sliced hv)⟩
    · cases hv
  | .filter relative test, nodes => by
    rw [select]
    refine .flatMapM_all fun node hnode => ?_
    refine (Ensures.filterM_mem fun child _ => .vacuous _).imp_ok ?_
    exact fun found h v hv => ⟨node, hnode, .child (h v hv)⟩
  | .descend s, nodes => by
    rw [select]
    refine (select_parts s _).imp_ok fun found h v hv => ?_
    -- A part of something below the node is a part of the node.
    obtain ⟨below, hbelow, hv⟩ := h v hv
    obtain ⟨node, hnode, hbelow⟩ := List.mem_flatMap.1 hbelow
    rw [descendantsOrSelf_eq] at hbelow
    exact ⟨node, hnode, hv.trans (.of_mem_preorder hbelow)⟩

theorem matchesFrom_parts (q : Query) (nodes : List Value) :
    Ensures (matchesFrom q nodes) (fun found => ∀ v ∈ found, ∃ node ∈ nodes, PartOf v node)
      fun _ => True := by
  induction q generalizing nodes with
  | nil => exact fun v hv => ⟨v, hv, .self⟩
  | cons s q ih =>
    rw [matchesFrom_cons]
    refine (select_parts s nodes).bind fun selected hselected => ?_
    refine (ih selected).imp_ok fun found h v hv => ?_
    obtain ⟨part, hpart, hv⟩ := h v hv
    obtain ⟨node, hnode, hpart⟩ := hselected part hpart
    exact ⟨node, hnode, hv.trans hpart⟩

/-! ## Members one by one -/

/-- A node has a value as one of its members. -/
inductive HasMember : Value → Member → Value → Prop where
  | field {es : Entries} {name : String} {v : Value} :
      es.get? name = some v → HasMember (.dict es) (.name name) v
  /-- A position in an object is the key that it is written as. -/
  | digits {es : Entries} {n : Int} {v : Value} :
      es.get? (toString n) = some v → HasMember (.dict es) (.index n) v
  | item {xs : List Value} {i : Nat} {v : Value} :
      xs[i]? = some v → HasMember (.list xs) (.index i) v
  | itemFromEnd {before behind : List Value} {v : Value} :
      HasMember (.list (before ++ v :: behind)) (.index (-(behind.length + 1 : Nat))) v
  /-- An integer name in a list is the position that it stands for. -/
  | named {xs : List Value} {name : String} {n : Int} {v : Value} :
      isIntegerText name.toList = true → integerOf name.toList = .ok n →
      HasMember (.list xs) (.index n) v → HasMember (.list xs) (.name name) v

/-- Members lead from a document to a value, one after the other. -/
inductive Leads : Value → List Member → Value → Prop where
  | here {v : Value} : Leads v [] v
  | step {document node v : Value} {m : Member} {ms : List Member} :
      HasMember document m node → Leads node ms v → Leads document (m :: ms) v

/-- What stands at a position, counted from the front or from the end, is the member there. -/
theorem itemAt?_eq_some {xs : List Value} {n : Int} {v : Value} :
    itemAt? xs n = some v ↔ HasMember (.list xs) (.index n) v := by
  constructor
  · intro h
    unfold itemAt? at h
    split_ifs at h with hfront hback
    · rw [← Int.toNat_of_nonneg hfront]
      exact .item h
    · obtain ⟨hlt, hitem⟩ := List.getElem?_eq_some_iff.1 h
      have hxs := List.take_append_drop ((xs.length + n).toNat) xs
      rw [List.drop_eq_getElem_cons hlt, hitem] at hxs
      -- A negative position counts from the end: the items behind it say which one it is.
      have hn : n = -((xs.drop ((xs.length + n).toNat + 1)).length + 1 : Nat) := by
        rw [List.length_drop]
        omega
      have hmember := @HasMember.itemFromEnd (xs.take (xs.length + n).toNat)
        (xs.drop ((xs.length + n).toNat + 1)) v
      rwa [hxs, ← hn] at hmember
  · intro h
    cases h with
    | item h => rwa [itemAt?, if_pos (Int.natCast_nonneg _), Int.toNat_natCast]
    | @itemFromEnd before behind =>
      have hposition : ((before ++ v :: behind).length + -(behind.length + 1 : Nat) : Int).toNat =
          before.length := by
        rw [List.length_append, List.length_cons]
        omega
      have hback : -((before ++ v :: behind).length : Int) ≤ -(behind.length + 1 : Nat) := by
        rw [List.length_append, List.length_cons]
        omega
      rw [itemAt?, if_neg (by omega), if_pos hback, hposition, List.getElem?_append_right le_rfl,
        Nat.sub_self, List.getElem?_cons_zero]

/-- Where a node has a member, the member is selected, and nothing else. -/
theorem memberOf_exact {node : Value} {m : Member} {found : List Value}
    (h : memberOf node m = .ok found) :
    found.length ≤ 1 ∧ ∀ v, v ∈ found ↔ HasMember node m v := by
  -- In all three kinds of values what is found is an option as a list.
  have hoption : ∀ {o : Option Value}, o.toList = found → (∀ v, o = some v ↔ HasMember node m v) →
      found.length ≤ 1 ∧ ∀ v, v ∈ found ↔ HasMember node m v := by
    rintro o rfl ho
    refine ⟨?_, fun v => Option.mem_toList.trans (ho v)⟩
    cases o <;> simp
  unfold memberOf at h
  split at h
  · next es =>
    refine hoption (Except.ok.inj h) fun v => ?_
    cases m with
    | name k =>
      refine ⟨.field, fun hmember => ?_⟩
      cases hmember with
      | field hfield => exact hfield
    | index n =>
      refine ⟨.digits, fun hmember => ?_⟩
      cases hmember with
      | digits hfield => exact hfield
  · next xs =>
    obtain ⟨position, hposition, hfound⟩ := map_eq_ok.1 h
    refine hoption hfound fun v => ?_
    cases m with
    | index n =>
      cases hposition
      exact itemAt?_eq_some
    | name k =>
      -- A name picks an item of a list only where it spells an integer.
      rw [listPosition?] at hposition
      split_ifs at hposition with hinteger
      · obtain ⟨n, hn, rfl⟩ := map_eq_ok.1 hposition
        refine itemAt?_eq_some.trans ⟨.named hinteger hn, ?_⟩
        rintro (_ | _ | _ | _ | ⟨_, hn', hmember⟩)
        cases hn.symm.trans hn'
        exact hmember
      · cases hposition
        refine ⟨fun hnone => ?_, ?_⟩
        · cases hnone
        · rintro (_ | _ | _ | _ | ⟨hinteger', -, -⟩)
          exact absurd hinteger' hinteger
  · next hdict hlist =>
    refine hoption (o := none) (Except.ok.inj h) fun v => ⟨fun hnone => ?_, fun hmember => ?_⟩
    · cases hnone
    · cases hmember with
      | field | digits => exact (hdict _ rfl).elim
      | item | itemFromEnd | named => exact (hlist _ rfl).elim

theorem leads_cons {document v : Value} {m : Member} {ms : List Member} :
    Leads document (m :: ms) v ↔ ∃ node, HasMember document m node ∧ Leads node ms v :=
  ⟨fun | .step hm hms => ⟨_, hm, hms⟩, fun ⟨_, hm, hms⟩ => .step hm hms⟩

/-- The selector of a single member. -/
def single (m : Member) : Selector :=
  .members [m]

theorem select_single (m : Member) (node : Value) : select (single m) [node] = memberOf node m := by
  rw [single, select, flatMapM_singleton, flatMapM_singleton]

/-- A query of single members matches the node that they lead to, and nothing else. -/
theorem matchesFrom_single {ms : List Member} {document : Value} {found : List Value}
    (h : matchesFrom (ms.map single) [document] = .ok found) :
    found.length ≤ 1 ∧ ∀ v, v ∈ found ↔ Leads document ms v := by
  induction ms generalizing document with
  | nil =>
    obtain rfl : [document] = found := Except.ok.inj h
    refine ⟨le_rfl, fun v => List.mem_singleton.trans ⟨?_, ?_⟩⟩
    · rintro rfl
      exact .here
    · rintro ⟨⟩
      rfl
  | cons m ms ih =>
    rw [List.map_cons, matchesFrom_cons, select_single] at h
    obtain ⟨nodes, hnodes, h⟩ := bind_eq_ok.1 h
    -- One member leads to at most one value, and from there the others do.
    obtain ⟨hlength, hmember⟩ := memberOf_exact hnodes
    cases nodes with
    | nil =>
      obtain rfl : [] = found := Except.ok.inj ((matchesFrom_nil _).symm.trans h)
      refine ⟨Nat.zero_le 1, fun v => ⟨nofun, fun hleads => ?_⟩⟩
      obtain ⟨node, hnode, -⟩ := leads_cons.1 hleads
      cases (hmember node).2 hnode
    | cons node rest =>
      obtain rfl : rest = [] := List.length_eq_zero_iff.1 (by simpa using hlength)
      obtain ⟨hone, hleads⟩ := ih h
      refine ⟨hone, fun v => (hleads v).trans ⟨fun hv => ?_, fun hv => ?_⟩⟩
      · exact leads_cons.2 ⟨node, (hmember node).1 List.mem_cons_self, hv⟩
      · obtain ⟨node', hnode', hv⟩ := leads_cons.1 hv
        obtain rfl := List.mem_singleton.1 ((hmember node').2 hnode')
        exact hv

/-- Everything that a path matches is the document or a part of it; and a path of single members
    matches the one node that they lead to, or nothing if they lead nowhere. -/
theorem matches_from_document {path : String} {document : Value} {found : List Value}
    (h : evaluate path document = .ok found) :
    (∀ v ∈ found, PartOf v document) ∧
    ∀ ms : List Member, parse path = .ok (ms.map single) →
      found.length ≤ 1 ∧ ∀ v, v ∈ found ↔ Leads document ms v := by
  constructor
  · obtain ⟨q, -, hq⟩ := bind_eq_ok.1 h
    intro v hv
    obtain ⟨node, hnode, hv⟩ := (matchesFrom_parts q [document]).of_ok (mapError_eq_ok.1 hq) v hv
    rwa [List.mem_singleton.1 hnode] at hv
  · intro ms hms
    rw [evaluate_of_parse hms] at h
    exact matchesFrom_single (mapError_eq_ok.1 h)

/-- A table whose last row is followed by a position, a name of digits and a position as a key. -/
def lastRowTable : Value :=
  .object [("rows", .list [.null, .list [.bool true, .object [("2", .text "x")]]])]

theorem matches_lastRowTable :
    evaluate "$.rows[-1].1[2]" lastRowTable = .ok [.text "x"] ∧
    PartOf (.text "x") lastRowTable ∧
    parse "$.rows[-1].1[2]" =
      .ok ([Member.name "rows", .index (-1), .name "1", .index 2].map single) ∧
    Leads lastRowTable [.name "rows", .index (-1), .name "1", .index 2] (.text "x") := by
  have hread : parse "$.rows[-1].1[2]" =
      .ok ([Member.name "rows", .index (-1), .name "1", .index 2].map single) := by
    cbv
  have hfound : evaluate "$.rows[-1].1[2]" lastRowTable = .ok [.text "x"] := by
    rw [evaluate_of_parse hread]
    cbv
  obtain ⟨hparts, hleads⟩ := matches_from_document hfound
  exact ⟨hfound, hparts _ List.mem_cons_self, hread,
    ((hleads _ hread).2 _).1 List.mem_cons_self⟩

end Query

end ApiJourney
