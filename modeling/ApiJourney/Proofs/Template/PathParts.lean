-- SUMMARY: Paths as they are written, and what they lead to part by part.
import ApiJourney.Proofs.Number.Written
import ApiJourney.Proofs.Text.Parts
import ApiJourney.Template.Path

/-!
# Written paths

A path is written as its parts: keys with points between them, positions in brackets. It is taken
apart into just these parts, and leads where they lead one by one. It leads nowhere exactly where
one of them is not there.
-/

namespace ApiJourney.Template

open ApiJourney.Text

/-! ## Texts of paths -/

namespace PathPart

variable {name digits rest : List Char}

/-- What can be written as a part of a path: a name without points and brackets, or digits. -/
def IsWritable : PathPart → Prop
  | key name => name ≠ [] ∧ ∀ c ∈ name, isNameChar c = true
  | index digits => digits ≠ [] ∧ ∀ d ∈ digits, isDecimal d = true

/-- How a part is written at the start of a path. -/
def first : PathPart → List Char
  | key name => name
  | index digits => '[' :: (digits ++ [']'])

/-- How a part is written behind another one: a key has a point in front. -/
def behind : PathPart → List Char
  | key name => '.' :: name
  | index digits => '[' :: (digits ++ [']'])

/-- The text of a path. -/
def pathText : List PathPart → List Char
  | [] => []
  | p :: ps => p.first ++ ps.flatMap behind

/-- Behind a text no name goes on. -/
def EndsName (rest : List Char) : Prop :=
  ∀ c ∈ rest.head?, isNameChar c = false

theorem endsName_nil : EndsName [] :=
  nofun

theorem endsName_dropWhile (cs : List Char) : EndsName (cs.dropWhile isNameChar) := by
  intro c hc
  have hstop := List.head?_dropWhile_not isNameChar cs
  rwa [Option.mem_def.1 hc] at hstop

theorem ofPath_cons (c : Char) (rest : List Char) :
    ofPath (c :: rest) = (next c rest).1.toList ++ ofPath (next c rest).2 := by
  rw [ofPath]

/-- A name is a part as far as it goes. -/
theorem ofPath_name_append (hne : name ≠ []) (h : ∀ c ∈ name, isNameChar c = true)
    (hrest : EndsName rest) : ofPath (name ++ rest) = .key name :: ofPath rest := by
  obtain ⟨c, cs, rfl⟩ := List.exists_cons_of_ne_nil hne
  rw [List.forall_mem_cons] at h
  have hc := h.1
  simp only [isNameChar, Bool.and_eq_true, bne_iff_ne] at hc
  rw [List.cons_append, ofPath_cons]
  simp [next, nameAt, hc, takeWhile_stopped h.2 hrest, dropWhile_stopped h.2 hrest]

/-- A point counts for nothing but that a name ends before it. -/
theorem ofPath_point (rest : List Char) : ofPath ('.' :: rest) = ofPath rest := by
  rw [ofPath_cons]
  have hsplit := List.takeWhile_append_dropWhile (p := isNameChar) (l := rest)
  by_cases hname : rest.takeWhile isNameChar = []
  · simp [next, nameAt, hname]
  · have hall : ∀ c ∈ rest.takeWhile isNameChar, isNameChar c = true := fun c hc =>
      List.mem_takeWhile_imp hc
    have hread := ofPath_name_append hname hall (endsName_dropWhile rest)
    rw [hsplit] at hread
    rw [hread]
    simp [next, nameAt, hname]

/-- Digits in brackets are a position. -/
theorem ofPath_index (hne : digits ≠ []) (h : ∀ d ∈ digits, isDecimal d = true)
    (rest : List Char) : ofPath ('[' :: (digits ++ ']' :: rest)) = .index digits :: ofPath rest := by
  obtain ⟨d, ds, rfl⟩ := List.exists_cons_of_ne_nil hne
  have hstop : ∀ c ∈ (']' :: rest).head?, isDecimal c = false := by
    rintro _ ⟨⟩
    decide
  rw [ofPath_cons]
  simp only [next, beq_self_eq_true, if_true, takeWhile_stopped h hstop, dropWhile_stopped h hstop]
  rfl

theorem endsName_behind (ps : List PathPart) : EndsName (ps.flatMap behind) := by
  intro c hc
  cases ps with
  | nil => cases hc
  | cons p ps => cases p <;> cases hc <;> decide

/-- Parts that are written behind one another are read as these parts. -/
theorem ofPath_flatMap_behind {ps : List PathPart} (h : ∀ p ∈ ps, p.IsWritable) :
    ofPath (ps.flatMap behind) = ps := by
  induction ps with
  | nil => rw [List.flatMap_nil, ofPath]
  | cons p ps ih =>
    rw [List.forall_mem_cons] at h
    have hrest := ih h.2
    rw [List.flatMap_cons]
    cases p with
    | key name =>
      rw [behind, List.cons_append, ofPath_point,
        ofPath_name_append h.1.1 h.1.2 (endsName_behind ps), hrest]
    | index digits =>
      rw [behind, List.cons_append, List.append_assoc, List.singleton_append,
        ofPath_index h.1.1 h.1.2, hrest]

/-- A written path is read as its parts. -/
theorem ofPath_pathText {ps : List PathPart} (h : ∀ p ∈ ps, p.IsWritable) :
    ofPath (pathText ps) = ps := by
  cases ps with
  | nil => rw [pathText, ofPath]
  | cons p ps =>
    have hread := ofPath_flatMap_behind h
    rw [List.flatMap_cons] at hread
    cases p with
    | key name => rwa [behind, List.cons_append, ofPath_point] at hread
    | index digits => exact hread

theorem first_ne_nil {p : PathPart} (h : p.IsWritable) : p.first ≠ [] := by
  cases p with
  | key name => exact h.1
  | index digits => exact List.cons_ne_nil _ _

theorem pathText_ne_nil {ps : List PathPart} (hne : ps ≠ []) (h : ∀ p ∈ ps, p.IsWritable) :
    pathText ps ≠ [] := by
  obtain ⟨p, ps, rfl⟩ := List.exists_cons_of_ne_nil hne
  rw [pathText]
  exact List.append_ne_nil_of_left_ne_nil (first_ne_nil (h p List.mem_cons_self)) _

end PathPart

open PathPart

/-- A written path is looked up along its parts. -/
theorem lookup?_pathText {context : Value} (hcontext : hasParts context = true)
    {ps : List PathPart} (hne : ps ≠ []) (h : ∀ p ∈ ps, p.IsWritable) :
    lookup? context (pathText ps) = followAll context ps := by
  have hempty : (pathText ps).isEmpty = false := by simp [pathText_ne_nil hne h]
  rw [lookup?, hempty, hcontext, ofPath_pathText h]
  rfl

/-! ## Parts and where they lead -/

/-- A part of a path: a key without points and brackets, or a position of no more digits than a
    numeral may have. -/
inductive Part where
  | key (name : List Char) (ne_nil : name ≠ []) (plain : ∀ c ∈ name, isNameChar c = true)
  | position (n : Nat) (short : Numeral.Short n)

namespace Part

/-- A part as it is written; positions are decimal. -/
def spelled : Part → PathPart
  | key name _ _ => .key name
  | position n _ => .index (Numeral.digitsOf n)

/-- The value that a part of another value is. -/
inductive LeadsTo : Part → Value → Value → Prop where
  | key {name : List Char} {ne_nil : name ≠ []} {plain : ∀ c ∈ name, isNameChar c = true}
      {es : Entries} {v : Value} :
      es.get? (String.ofList name) = some v → LeadsTo (.key name ne_nil plain) (.dict es) v
  | position {n : Nat} {short : Numeral.Short n} {xs : List Value} {v : Value} :
      xs[n]? = some v → LeadsTo (.position n short) (.list xs) v

/-- A part is not there: a key in what is no object or does not know it, a position in what is no
    list or is not so long. -/
inductive Absent : Part → Value → Prop where
  | noObject {name : List Char} {ne_nil : name ≠ []} {plain : ∀ c ∈ name, isNameChar c = true}
      {v : Value} : (∀ es, v ≠ .dict es) → Absent (.key name ne_nil plain) v
  | unknown {name : List Char} {ne_nil : name ≠ []} {plain : ∀ c ∈ name, isNameChar c = true}
      {es : Entries} : es.get? (String.ofList name) = none →
      Absent (.key name ne_nil plain) (.dict es)
  | noList {n : Nat} {short : Numeral.Short n} {v : Value} : (∀ xs, v ≠ .list xs) →
      Absent (.position n short) v
  | outside {n : Nat} {short : Numeral.Short n} {xs : List Value} : xs.length ≤ n →
      Absent (.position n short) (.list xs)

theorem isWritable_spelled (p : Part) : p.spelled.IsWritable := by
  cases p with
  | key name ne_nil plain => exact ⟨ne_nil, plain⟩
  | position n short =>
    exact ⟨Numeral.digitsOf_ne_nil n, fun d hd =>
      isDecimal_of_isAsciiDigit (Numeral.isAsciiDigit_of_mem_digitsOf d hd)⟩

theorem integer?_digitsOf {n : Nat} (h : Numeral.Short n) :
    Numeral.integer? 10 (Numeral.digitsOf n) = some (n : Int) := by
  have hread := Numeral.integer?_toString h
  have hsign : Numeral.signOf n = [] := if_neg (by omega)
  rwa [Numeral.toList_toString, hsign, List.nil_append] at hread

/-- A part is followed to where it leads, or it is not there. -/
theorem follow_spelled (p : Part) (v : Value) :
    (∃ w, follow v p.spelled = .ok (some w) ∧ LeadsTo p v w) ∨
      follow v p.spelled = .ok none ∧ Absent p v := by
  cases p with
  | key name ne_nil plain =>
    by_cases hobject : ∃ es, v = .dict es
    · obtain ⟨es, rfl⟩ := hobject
      rw [spelled, follow]
      cases hfound : Entries.get? es (String.ofList name) with
      | none => exact .inr ⟨rfl, .unknown hfound⟩
      | some w => exact .inl ⟨w, rfl, .key hfound⟩
    · rw [not_exists] at hobject
      refine .inr ⟨?_, .noObject hobject⟩
      cases v with
      | dict es => exact absurd rfl (hobject es)
      | _ => rfl
  | position n short =>
    have hread := integer?_digitsOf short
    by_cases hlist : ∃ xs, v = .list xs
    · obtain ⟨xs, rfl⟩ := hlist
      simp only [spelled, follow, hread, Int.toNat_natCast]
      cases hfound : xs[n]? with
      | none => exact .inr ⟨rfl, .outside (List.getElem?_eq_none_iff.1 hfound)⟩
      | some w => exact .inl ⟨w, rfl, .position hfound⟩
    · rw [not_exists] at hlist
      refine .inr ⟨?_, .noList hlist⟩
      simp only [spelled, follow, hread]

theorem LeadsTo.not_absent {p : Part} {v w : Value} (h : LeadsTo p v w) : ¬ Absent p v := by
  intro habsent
  cases h with
  | key hfound =>
    cases habsent with
    | noObject hno => exact hno _ rfl
    | unknown hnone => rw [hfound] at hnone; cases hnone
  | position hfound =>
    cases habsent with
    | noList hno => exact hno _ rfl
    | outside hlength =>
      rw [List.getElem?_eq_none hlength] at hfound
      cases hfound

theorem LeadsTo.unique {p : Part} {v w w' : Value} (h : LeadsTo p v w) (h' : LeadsTo p v w') :
    w = w' := by
  cases h with
  | key hfound => cases h' with | key hfound' => exact Option.some.inj (hfound.symm.trans hfound')
  | position hfound =>
    cases h' with | position hfound' => exact Option.some.inj (hfound.symm.trans hfound')

end Part

/-- The value that parts lead to, one after the other. -/
inductive Leads : Value → List Part → Value → Prop where
  | here {v : Value} : Leads v [] v
  | step {p : Part} {ps : List Part} {v w x : Value} :
      p.LeadsTo v w → Leads w ps x → Leads v (p :: ps) x

/-- On the way along parts there is one that is not there. -/
def Breaks (v : Value) (ps : List Part) : Prop :=
  ∃ before p after w, ps = before ++ p :: after ∧ Leads v before w ∧ p.Absent w

namespace Leads

variable {p : Part} {ps : List Part} {v w x : Value}

theorem unique (h : Leads v ps w) (h' : Leads v ps x) : w = x := by
  induction h with
  | here =>
    cases h'
    rfl
  | step hp _ ih =>
    cases h' with
    | step hp' hps' =>
      obtain rfl := hp.unique hp'
      exact ih hps'

theorem not_breaks (h : Leads v ps w) : ¬ Breaks v ps := by
  rintro ⟨before, p, after, x, rfl, hbefore, habsent⟩
  induction hbefore with
  | here => cases h with | step hp _ => exact hp.not_absent habsent
  | step hp _ ih =>
    cases h with
    | step hp' hps =>
      obtain rfl := hp.unique hp'
      exact ih hps habsent

end Leads

theorem Breaks.step {p : Part} {ps : List Part} {v w : Value} (hp : p.LeadsTo v w)
    (h : Breaks w ps) : Breaks v (p :: ps) := by
  obtain ⟨before, q, after, x, rfl, hbefore, habsent⟩ := h
  exact ⟨p :: before, q, after, x, rfl, .step hp hbefore, habsent⟩

/-- Parts are followed to where they lead, or one of them is not there. -/
theorem followAll_spelled (ps : List Part) (v : Value) :
    (∃ w, followAll v (ps.map Part.spelled) = .ok (some w) ∧ Leads v ps w) ∨
      followAll v (ps.map Part.spelled) = .ok none ∧ Breaks v ps := by
  induction ps generalizing v with
  | nil => exact .inl ⟨v, rfl, .here⟩
  | cons p ps ih =>
    rw [List.map_cons, followAll]
    rcases p.follow_spelled v with ⟨w, hfollow, hp⟩ | ⟨hfollow, habsent⟩
    · rw [hfollow]
      rcases ih w with ⟨x, hx, hps⟩ | ⟨hnone, hbreaks⟩
      · exact .inl ⟨x, hx, .step hp hps⟩
      · exact .inr ⟨hnone, hbreaks.step hp⟩
    · rw [hfollow]
      exact .inr ⟨rfl, [], p, ps, v, rfl, .here, habsent⟩

/-- In an object or a list a written path is looked up without a fault. It leads to the value
    that its parts lead to one by one, also where that is a null, and it leads nowhere exactly
    where one of its parts is not there. -/
theorem lookup?_written {context : Value} (hcontext : hasParts context = true) {ps : List Part}
    (hne : ps ≠ []) :
    (∃ found, lookup? context (pathText (ps.map Part.spelled)) = .ok found) ∧
    (∀ v, lookup? context (pathText (ps.map Part.spelled)) = .ok (some v) ↔ Leads context ps v) ∧
    (lookup? context (pathText (ps.map Part.spelled)) = .ok none ↔ Breaks context ps) := by
  have hwritable : ∀ p ∈ ps.map Part.spelled, p.IsWritable := by
    intro p hp
    obtain ⟨q, -, rfl⟩ := List.mem_map.1 hp
    exact q.isWritable_spelled
  rw [lookup?_pathText hcontext (by simpa using hne) hwritable]
  rcases followAll_spelled ps context with ⟨w, hfound, hleads⟩ | ⟨hnone, hbreaks⟩
  · refine ⟨⟨some w, hfound⟩, fun v => ?_, ?_⟩
    · rw [hfound]
      constructor
      · intro h
        cases h
        exact hleads
      · intro h
        rw [hleads.unique h]
    · rw [hfound]
      exact iff_of_false nofun hleads.not_breaks
  · refine ⟨⟨none, hnone⟩, fun v => ?_, ?_⟩
    · rw [hnone]
      exact iff_of_false nofun fun h => h.not_breaks hbreaks
    · rw [hnone]
      exact iff_of_true rfl hbreaks

/-- A user with an address whose city is known to be none. -/
def addressBook : Value :=
  .object [("user", .object [("addresses", .list [.object [("city", .null)]])])]

def cityPath : List Part :=
  [.key "user".toList (by decide) (List.all_eq_true.1 rfl),
    .key "addresses".toList (by decide) (List.all_eq_true.1 rfl),
    .position 0 (Numeral.short_of_lt (k := 1) (by decide) (by decide)),
    .key "city".toList (by decide) (List.all_eq_true.1 rfl)]

/-- The null at the end of the path is found, and is not taken for a missing part. -/
theorem lookup?_cityPath :
    hasParts addressBook = true ∧ cityPath ≠ [] ∧
    lookup? addressBook "user.addresses[0].city".toList = .ok (some .null) :=
  have hleads : Leads addressBook cityPath .null :=
    .step (.key rfl) (.step (.key rfl) (.step (.position rfl) (.step (.key rfl) .here)))
  ⟨rfl, List.cons_ne_nil _ _,
    ((lookup?_written rfl (List.cons_ne_nil _ _)).2.1 .null).2 hleads⟩

end ApiJourney.Template
