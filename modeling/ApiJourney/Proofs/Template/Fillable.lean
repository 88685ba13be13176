-- SUMMARY: Which templates can be filled from JSON variables, and to what.
import ApiJourney.Proofs.Template.Object
import ApiJourney.Proofs.Template.PathMarks
import ApiJourney.Proofs.Template.Paths
import ApiJourney.Proofs.Template.Texts

/-!
# Templates that can be filled

A template can be filled from JSON variables unless one of its paths comes to a position of too
many digits, or has to be written and leads to an integer of too many digits. A typed token is not
written: it is filled with the value itself, of whatever kind that is.
-/

namespace ApiJourney.Template

open ApiJourney.Text PathPart Value

variable {context v : Value} {path : List Char} {s : String}

/-! ## Looking up -/

/-- Parts that are followed from a value come to a position with more digits than a numeral may
    have. -/
inductive Overruns : Value → List PathPart → Prop where
  | here {v : Value} {digits : List Char} {ps : List PathPart} :
      Numeral.maxDigits < digits.length → Overruns v (.index digits :: ps)
  | further {v w : Value} {p : PathPart} {ps : List PathPart} :
      follow v p = .ok (some w) → Overruns w ps → Overruns v (p :: ps)

theorem follow_eq_error {p : PathPart} (hp : p.IsWritable) {f : Fault} :
    follow v p = .error f ↔
      f = .badValue ∧ ∃ digits, p = .index digits ∧ Numeral.maxDigits < digits.length := by
  cases p with
  | key name => cases v <;> simp [follow]
  | index digits =>
    rw [follow]
    cases hread : Numeral.integer? 10 digits with
    | none =>
      have hlong := (Numeral.integer?_bareDigits hp.1 hp.2).1 hread
      simp [hlong, eq_comm]
    | some i =>
      have hshort : ¬ Numeral.maxDigits < digits.length := fun hlong => by
        rw [(Numeral.integer?_bareDigits hp.1 hp.2).2 hlong] at hread
        cases hread
      cases v <;> simp [hshort]

theorem followAll_eq_ok {ps : List PathPart} (h : ∀ p ∈ ps, p.IsWritable) :
    (∃ found, followAll v ps = .ok found) ↔ ¬ Overruns v ps := by
  induction ps generalizing v with
  | nil => exact iff_of_true ⟨_, rfl⟩ fun hover => by cases hover
  | cons p ps ih =>
    rw [List.forall_mem_cons] at h
    rw [followAll]
    cases hp : follow v p with
    | error f =>
      obtain ⟨-, digits, rfl, hlong⟩ := (follow_eq_error h.1).1 hp
      refine iff_of_false ?_ (not_not.2 (.here hlong))
      rintro ⟨_, ⟨⟩⟩
    | ok found =>
      have hhere : ∀ digits, p = .index digits → ¬ Numeral.maxDigits < digits.length :=
        fun digits hindex hlong => by
          rw [(follow_eq_error h.1).2 ⟨rfl, digits, hindex, hlong⟩] at hp
          cases hp
      cases found with
      | none =>
        refine iff_of_true ⟨_, rfl⟩ fun hover => ?_
        cases hover with
        | here hlong => exact hhere _ rfl hlong
        | further hnext _ => rw [hp] at hnext; cases hnext
      | some w =>
        refine ih h.2 |>.trans (not_congr ⟨.further hp, fun hover => ?_⟩)
        cases hover with
        | here hlong => exact absurd hlong (hhere _ rfl)
        | further hnext hover =>
          rw [hp] at hnext
          cases hnext
          exact hover

/-- A path can be looked up unless it comes to a position of too many digits. -/
theorem lookup?_eq_ok (hparts : hasParts context = true) :
    (∃ found, lookup? context path = .ok found) ↔ ¬ Overruns context (ofPath path) := by
  obtain ⟨ps, hps⟩ := exists_scattered path
  rw [hps.ofPath_eq, ← followAll_eq_ok hps.isWritable, lookup?, hps.ofPath_eq, hparts]
  cases path with
  | nil =>
    obtain rfl := hps.eq_nil_iff.2 (List.forall_mem_nil _)
    exact iff_of_true ⟨_, rfl⟩ ⟨_, rfl⟩
  | cons c path => rfl

/-- What is inherited from a value by all in it is inherited by what is found there. -/
theorem inherits_of_lookup? {P : Value → Prop}
    (hdict : ∀ {es : Entries} {k w : Value}, (k, w) ∈ es → P (.dict es) → P w)
    (hlist : ∀ {items : List Value} {w : Value}, w ∈ items → P (.list items) → P w)
    (h : lookup? context path = .ok (some v)) (hcontext : P context) : P v := by
  -- One part of a path steps to a part of the value, and a path steps part by part.
  have hfollow : ∀ {u w : Value} {p : PathPart}, follow u p = .ok (some w) → P u → P w := by
    intro u w p h hu
    cases p with
    | key name =>
      cases u with
      | dict es =>
        obtain ⟨k, hmem⟩ := Entries.exists_key_of_find? (Except.ok.inj h)
        exact hdict hmem hu
      | _ => cases h
    | index digits =>
      rw [follow] at h
      split at h
      · cases h
      · cases u with
        | list items => exact hlist (List.mem_of_getElem? (Except.ok.inj h)) hu
        | _ => cases h
  have hall : ∀ {u w : Value} {ps : List PathPart}, followAll u ps = .ok (some w) → P u → P w := by
    intro u w ps h hu
    induction ps generalizing u with
    | nil =>
      cases h
      exact hu
    | cons p ps ih =>
      obtain ⟨found, hfound, h⟩ := bind_eq_ok.1 h
      cases found with
      | none => cases h
      | some x => exact ih h (hfollow hfound hu)
  unfold lookup? at h
  split at h
  · cases h
  · exact hall h hcontext

/-- What is found among JSON variables is a JSON value. -/
theorem isJson_of_lookup? (hcontext : IsJson context)
    (h : lookup? context path = .ok (some v)) : IsJson v := by
  refine inherits_of_lookup? ?_ (fun hw hitems => isJson_list_iff.1 hitems _ hw) h hcontext
  intro es k w hmem hes
  cases hes with
  | object _ hfields =>
    obtain ⟨f, hf, heq⟩ := List.mem_map.1 hmem
    cases heq
    exact hfields f hf

theorem not_holdsLong_of_lookup? (hcontext : ¬ context.HoldsLong)
    (h : lookup? context path = .ok (some v)) : ¬ v.HoldsLong :=
  inherits_of_lookup? (P := (¬ ·.HoldsLong)) (fun hmem hno hw => hno (.entry hmem hw))
    (fun hmem hno hw => hno (.item hmem hw)) h hcontext

theorem not_overruns {ps : List PathPart}
    (h : ∀ digits, .index digits ∈ ps → digits.length ≤ Numeral.maxDigits) : ¬ Overruns v ps := by
  intro hover
  induction hover with
  | here hlong => exact absurd hlong (Nat.not_lt.2 (h _ List.mem_cons_self))
  | further _ _ ih => exact ih fun digits hmem => h digits (List.mem_cons_of_mem _ hmem)

/-! ## Texts -/

/-- A path can be looked up, and what it leads to has a text. -/
def Writes (context : Value) (path : List Char) : Prop :=
  ∃ found, lookup? context path = .ok found ∧ ∀ v ∈ found, ∃ t, textOf v = .ok t

theorem writes_iff (hcontext : IsJson context) (hparts : hasParts context = true) :
    Writes context path ↔ ¬ Overruns context (ofPath path) ∧
      ∀ v, lookup? context path = .ok (some v) → ¬ v.HoldsLong := by
  rw [← lookup?_eq_ok hparts]
  constructor
  · rintro ⟨found, hfound, htext⟩
    refine ⟨⟨found, hfound⟩, fun v hv => ?_⟩
    rw [hfound, Except.ok.injEq] at hv
    subst hv
    exact (textOf_eq_ok (isJson_of_lookup? hcontext hfound)).1 (htext v rfl)
  · rintro ⟨⟨found, hfound⟩, hshort⟩
    refine ⟨found, hfound, ?_⟩
    rintro v rfl
    exact (textOf_eq_ok (isJson_of_lookup? hcontext hfound)).2 (hshort v hfound)

theorem fillPath_eq_ok (written : List Char) :
    (∃ cs, fillPath context path written = .ok cs) ↔ Writes context path := by
  simp only [fillPath, Writes, bind_eq_ok]
  constructor
  · rintro ⟨cs, found, hfound, h⟩
    refine ⟨found, hfound, ?_⟩
    rintro v rfl
    obtain ⟨t, ht, -⟩ := map_eq_ok.1 h
    exact ⟨t, ht⟩
  · rintro ⟨found, hfound, htext⟩
    cases found with
    | none => exact ⟨written, none, hfound, rfl⟩
    | some v =>
      obtain ⟨t, ht⟩ := htext v rfl
      exact ⟨t.toList, some v, hfound, map_eq_ok.2 ⟨t, ht, rfl⟩⟩

/-- The placeholders in a text can be filled if each of their paths can be written. -/
theorem fillFrom_eq_ok {skip : Nat} {cs : List Char} :
    (∃ filled, fillFrom context skip cs = .ok filled) ↔
      ∀ path ∈ placeholderPaths skip cs, Writes context path := by
  induction cs generalizing skip with
  | nil => exact iff_of_true ⟨_, rfl⟩ (List.forall_mem_nil _)
  | cons c cs ih =>
    cases skip with
    | succ skip => exact ih
    | zero =>
      cases hfound : placeholder? (c :: cs) with
      | none =>
        simp only [placeholderPaths, hfound, fillFrom_cons_none hfound, bind_eq_ok]
        rw [← ih]
        constructor
        · rintro ⟨_, more, hmore, -⟩
          exact ⟨more, hmore⟩
        · rintro ⟨more, hmore⟩
          exact ⟨_, more, hmore, rfl⟩
      | some found =>
        obtain ⟨path, length⟩ := found
        simp only [placeholderPaths, hfound, fillFrom_cons_some hfound, bind_eq_ok,
          List.forall_mem_cons]
        rw [← ih, ← fillPath_eq_ok ((c :: cs).take length)]
        constructor
        · rintro ⟨_, filled, hfilled, more, hmore, -⟩
          exact ⟨⟨filled, hfilled⟩, more, hmore⟩
        · rintro ⟨⟨filled, hfilled⟩, more, hmore⟩
          exact ⟨_, filled, hfilled, more, hmore, rfl⟩

/-! ## Typed tokens -/

/-- A text is a variable token for the value itself that a path leads to. -/
def IsTyped (s : String) (path : List Char) : Prop :=
  ∃ body, tokenBody? s.toList = some body ∧
    split [':'] (some 1) body = ["unquoted".toList, path]

/-- A text is a variable token for a value; where its path leads nowhere, the value is null. -/
def StandsFor (context : Value) (s : String) (v : Value) : Prop :=
  ∃ path found, IsTyped s path ∧ lookup? context path = .ok found ∧ v = found.getD .null

theorem IsTyped.textPaths_eq (h : IsTyped s path) : textPaths s = [path] := by
  obtain ⟨body, hbody, hsplit⟩ := h
  rw [textPaths, hbody]
  dsimp only
  rw [hsplit]

theorem IsTyped.fillText_eq (h : IsTyped s path) :
    fillText context s = (lookup? context path).map (·.getD .null) := by
  obtain ⟨body, hbody, hsplit⟩ := h
  rw [fillText, hbody]
  dsimp only
  rw [hsplit]
  dsimp only
  rw [fillToken]
  cases lookup? context path with
  | error f => rfl
  | ok found => cases found <;> rfl

theorem StandsFor.fillText_eq (h : StandsFor context s v) : fillText context s = .ok v := by
  obtain ⟨path, found, htyped, hfound, rfl⟩ := h
  rw [htyped.fillText_eq, hfound]
  rfl

theorem StandsFor.isJson (hcontext : IsJson context) (h : StandsFor context s v) : IsJson v := by
  obtain ⟨path, found, -, hfound, rfl⟩ := h
  cases found with
  | none => exact .null
  | some v => exact isJson_of_lookup? hcontext hfound

/-- A token of another kind stands for a text. -/
theorem fillToken_eq_ok {kind : List Char} (hkind : kind ≠ "unquoted".toList) :
    ((∃ v, fillToken context kind path = .ok v) ↔ Writes context path) ∧
      ∀ v, fillToken context kind path = .ok v → v.IsText := by
  simp only [fillToken, beq_eq_false_iff_ne.2 hkind, Writes, bind_eq_ok]
  refine ⟨⟨?_, ?_⟩, ?_⟩
  · rintro ⟨v, found, hfound, hv⟩
    refine ⟨found, hfound, ?_⟩
    rintro w rfl
    obtain ⟨t, ht, -⟩ := map_eq_ok.1 hv
    exact ⟨t, ht⟩
  · rintro ⟨found, hfound, htext⟩
    cases found with
    | none => exact ⟨.text "", none, hfound, rfl⟩
    | some w =>
      obtain ⟨t, ht⟩ := htext w rfl
      exact ⟨.text t, some w, hfound, map_eq_ok.2 ⟨t, ht, rfl⟩⟩
  · rintro v ⟨found, -, hv⟩
    cases found with
    | none => exact ⟨"", (Except.ok.inj hv).symm⟩
    | some w =>
      obtain ⟨t, -, rfl⟩ := map_eq_ok.1 hv
      exact ⟨t, rfl⟩

/-- What is no typed token is filled with texts, and so becomes a text. -/
theorem fillText_untyped (context : Value) (h : ∀ path, ¬ IsTyped s path) :
    ((∃ v, fillText context s = .ok v) ↔ ∀ path ∈ textPaths s, Writes context path) ∧
      ∀ v, fillText context s = .ok v → v.IsText := by
  unfold fillText textPaths
  cases hbody : tokenBody? s.toList with
  | none =>
    simp only [map_eq_ok]
    rw [← fillFrom_eq_ok]
    refine ⟨⟨?_, ?_⟩, ?_⟩
    · rintro ⟨_, cs, hcs, -⟩
      exact ⟨cs, hcs⟩
    · rintro ⟨cs, hcs⟩
      exact ⟨_, cs, hcs, rfl⟩
    · rintro v ⟨cs, -, rfl⟩
      exact ⟨_, rfl⟩
  | some body =>
    have hstays : ((∃ v, (.ok (.text s) : Except Fault Value) = .ok v) ↔
        ∀ path ∈ [], Writes context path) ∧
          ∀ v : Value, (.ok (.text s) : Except Fault Value) = .ok v → v.IsText :=
      ⟨iff_of_true ⟨_, rfl⟩ (List.forall_mem_nil _), fun v hv => ⟨s, (Except.ok.inj hv).symm⟩⟩
    dsimp only
    rcases hparts : split [':'] (some 1) body with _ | ⟨kind, _ | ⟨path, _ | ⟨_, _⟩⟩⟩
    · exact hstays
    · exact hstays
    · have hkind : kind ≠ "unquoted".toList := by
        rintro rfl
        exact h path ⟨body, hbody, hparts⟩
      dsimp only
      rw [List.forall_mem_singleton]
      exact fillToken_eq_ok hkind
    · exact hstays

/-- A text becomes a text or what it stands for. -/
theorem isText_or_standsFor (h : fillText context s = .ok v) : v.IsText ∨ StandsFor context s v := by
  by_cases htyped : ∃ path, IsTyped s path
  · obtain ⟨path, htyped⟩ := htyped
    rw [htyped.fillText_eq] at h
    obtain ⟨found, hfound, hv⟩ := map_eq_ok.1 h
    exact .inr ⟨path, found, htyped, hfound, hv.symm⟩
  · exact .inl ((fillText_untyped context (not_exists.1 htyped)).2 v h)

theorem isJson_fillText (hcontext : IsJson context) (h : fillText context s = .ok v) :
    IsJson v := by
  rcases isText_or_standsFor h with ⟨t, rfl⟩ | hstands
  · exact .text t
  · exact hstands.isJson hcontext

/-! ## Templates -/

/-- A text can be filled: none of its paths comes to a position of too many digits, nor do those
    that have to be written lead to an integer of too many digits. -/
structure Fillable (context : Value) (s : String) : Prop where
  reached : ∀ path ∈ textPaths s, ¬ Overruns context (ofPath path)
  written : (∀ path, ¬ IsTyped s path) → ∀ path ∈ textPaths s, ∀ v,
    lookup? context path = .ok (some v) → ¬ v.HoldsLong

/-- A template can be filled, and does not stand for a value of another kind. -/
def FillsAs (context : Value) (P : Value → Prop) : Value → Prop
  | .text s => Fillable context s ∧ ∀ v, StandsFor context s v → P v
  | v => P v

theorem FillsAs.imp {P Q : Value → Prop} (h : FillsAs context P v) (hPQ : ∀ v, P v → Q v) :
    FillsAs context Q v := by
  cases v with
  | text s => exact ⟨h.1, fun v hv => hPQ v (h.2 v hv)⟩
  | _ => exact hPQ _ h

theorem fillsAs_of_untyped {P : Value → Prop} (h : Fillable context s)
    (huntyped : ∀ path, ¬ IsTyped s path) : FillsAs context P (.text s) := by
  refine ⟨h, ?_⟩
  rintro v ⟨path, -, htyped, -⟩
  exact absurd htyped (huntyped path)

section Json

variable (hcontext : IsJson context) (hparts : hasParts context = true)
include hcontext hparts

theorem fillText_as {P : Value → Prop} (hP : ∀ t, P (.text t)) :
    (∃ v, fillText context s = .ok v ∧ P v) ↔ FillsAs context P (.text s) := by
  -- A typed token stands for the value itself; any other text is always filled to a text.
  by_cases htyped : ∃ path, IsTyped s path
  · obtain ⟨path, htyped⟩ := htyped
    have hreach : Fillable context s ↔ ∃ found, lookup? context path = .ok found := by
      rw [lookup?_eq_ok hparts]
      constructor
      · exact fun h => h.reached path (by rw [htyped.textPaths_eq]; exact List.mem_cons_self)
      · intro h
        refine ⟨?_, fun hno => absurd htyped (hno path)⟩
        rw [htyped.textPaths_eq]
        exact List.forall_mem_singleton.2 h
    rw [FillsAs, hreach]
    constructor
    · rintro ⟨v, hv, hPv⟩
      have hlookup := hv
      rw [htyped.fillText_eq] at hlookup
      obtain ⟨found, hfound, -⟩ := map_eq_ok.1 hlookup
      refine ⟨⟨found, hfound⟩, fun w hw => ?_⟩
      rw [hw.fillText_eq, Except.ok.injEq] at hv
      exact hv ▸ hPv
    · rintro ⟨⟨found, hfound⟩, hall⟩
      have hstands : StandsFor context s (found.getD .null) := ⟨path, found, htyped, hfound, rfl⟩
      exact ⟨_, hstands.fillText_eq, hall _ hstands⟩
  · rw [not_exists] at htyped
    obtain ⟨hok, htext⟩ := fillText_untyped context htyped
    have hfills : FillsAs context P (.text s) ↔ ∀ path ∈ textPaths s, Writes context path := by
      simp only [writes_iff hcontext hparts]
      constructor
      · exact fun ⟨h, _⟩ path hpath => ⟨h.reached path hpath, h.written htyped path hpath⟩
      · intro h
        refine fillsAs_of_untyped ⟨?_, ?_⟩ htyped
        · exact fun path hpath => (h path hpath).1
        · exact fun _ path hpath => (h path hpath).2
    rw [hfills, ← hok]
    constructor
    · exact fun ⟨v, hv, _⟩ => ⟨v, hv⟩
    · rintro ⟨v, hv⟩
      obtain ⟨t, rfl⟩ := htext v hv
      exact ⟨_, hv, hP t⟩

theorem fillText_eq_ok : (∃ v, fillText context s = .ok v) ↔ Fillable context s := by
  have hfill := fillText_as (s := s) (P := fun _ => True) hcontext hparts fun _ => trivial
  simpa only [FillsAs, and_true, implies_true] using hfill

/-- A template is filled to a value of a kind that texts are of, if it can be filled at all and
    stands for no value of another kind. -/
theorem fill_as {P : Value → Prop} (hP : ∀ t, P (.text t)) :
    (∃ w, fill context v = .ok w ∧ P w) ↔ FillsAs context P v := by
  cases v with
  | text s => exact fillText_as hcontext hparts hP
  | _ => simp [fill, FillsAs]

theorem fillsAs_iff {P : Value → Prop} (hP : ∀ t, P (.text t)) {w : Value}
    (h : fill context v = .ok w) : FillsAs context P v ↔ P w := by
  rw [← fill_as hcontext hparts hP, h]
  exact ⟨fun ⟨w', hw, hPw⟩ => Except.ok.inj hw ▸ hPw, fun hPw => ⟨w, rfl, hPw⟩⟩

end Json

/-! ## Values -/

/-- Whether a value is filled, or has values inside that are. -/
def isTemplate : Value → Bool
  | .text _ => true
  | .list _ => true
  | .dict _ => true
  | _ => false

/-- What is filled item by item and entry by entry can be proved so. -/
theorem template_induction {P : Value → Prop} (text : ∀ s, P (.text s))
    (list : ∀ items, (∀ x ∈ items, P x) → P (.list items))
    (dict : ∀ es, (∀ e ∈ es, P e.2) → P (.dict es)) (other : ∀ v, isTemplate v = false → P v) :
    ∀ v, P v
  | .text s => text s
  | .list items => list items fun x _ => template_induction text list dict other x
  | .dict es => dict es fun e _ => template_induction text list dict other e.2
  | .null | .bool _ | .int _ | .float _ | .bytes _ | .tuple _ | .complex _ _ | .ellipsis
  | .foreign _ =>
    other _ rfl
termination_by v => sizeOf v
decreasing_by
  · next hx =>
    have := List.sizeOf_lt_of_mem hx
    simp only [Value.list.sizeOf_spec]
    omega
  · next he =>
    have := List.sizeOf_lt_of_mem he
    obtain ⟨k, v⟩ := e
    simp only [Prod.mk.sizeOf_spec, Value.dict.sizeOf_spec] at this ⊢
    omega

/-- All texts in a value can be filled, and its keys become values that can be keys. -/
inductive Completes (context : Value) : Value → Prop where
  | text {s : String} : Fillable context s → Completes context (.text s)
  | list {items : List Value} : (∀ x ∈ items, Completes context x) → Completes context (.list items)
  | dict {es : Entries} : (∀ e ∈ es, FillsAs context (·.hashable = true) e.1) →
      (∀ e ∈ es, Completes context e.2) → Completes context (.dict es)
  | other {v : Value} : isTemplate v = false → Completes context v

/-- All keys in a value become texts, but for those in a value that a later one of the same key
    takes the place of. -/
inductive Keyed (context : Value) : Value → Prop where
  | text (s : String) : Keyed context (.text s)
  | list {items : List Value} : (∀ x ∈ items, Keyed context x) → Keyed context (.list items)
  | dict {es : Entries} : (∀ e ∈ es, FillsAs context IsText e.1) →
      (∀ e, Latest (fill context ·.1) e es → Keyed context e.2) → Keyed context (.dict es)
  | other {v : Value} : isTemplate v = false → TextKeyed v → Keyed context v

theorem completes_text : Completes context (.text s) ↔ Fillable context s := by
  refine ⟨fun h => ?_, .text⟩
  cases h with
  | text h => exact h
  | other h => cases h

theorem completes_list {items : List Value} :
    Completes context (.list items) ↔ ∀ x ∈ items, Completes context x := by
  refine ⟨fun h => ?_, .list⟩
  cases h with
  | list h => exact h
  | other h => cases h

theorem completes_dict {es : Entries} :
    Completes context (.dict es) ↔
      ∀ e ∈ es, FillsAs context (·.hashable = true) e.1 ∧ Completes context e.2 := by
  constructor
  · intro h
    cases h with
    | dict hkeys h => exact fun e he => ⟨hkeys e he, h e he⟩
    | other h => cases h
  · exact fun h => .dict (fun e he => (h e he).1) fun e he => (h e he).2

theorem fillAll_other (h : isTemplate v = false) : fillAll context v = .ok v := by
  cases v <;> first | cases h; done | simp [fillAll]

theorem fillItems_eq_ok {items ys : List Value} :
    fillItems context items = .ok ys ↔
      List.Forall₂ (fun x y => fillAll context x = .ok y) items ys := by
  induction items generalizing ys with
  | nil => rw [fillItems, Except.ok.injEq, List.forall₂_nil_left_iff, eq_comm]
  | cons x items ih =>
    simp only [fillItems, bind_eq_ok, ih, List.forall₂_cons_left_iff, Except.ok.injEq]
    constructor
    · rintro ⟨y, hy, more, hmore, rfl⟩
      exact ⟨y, more, hy, hmore, rfl⟩
    · rintro ⟨y, more, hy, hmore, rfl⟩
      exact ⟨y, hy, more, hmore, rfl⟩

section Json

variable (hcontext : IsJson context) (hparts : hasParts context = true)
include hcontext hparts

theorem fillsTo_iff {e : Value × Value} :
    (∃ f, FillsTo context e f) ↔ FillsAs context (·.hashable = true) e.1 ∧
      ∃ w, fillAll context e.2 = .ok w := by
  rw [← fill_as hcontext hparts fun _ => rfl]
  constructor
  · rintro ⟨f, hf⟩
    exact ⟨⟨f.1, hf.key, hf.hashable⟩, f.2, hf.value⟩
  · rintro ⟨⟨key, hkey, hhashable⟩, w, hw⟩
    exact ⟨(key, w), hkey, hw, hhashable⟩

/-- A value can be filled exactly if it completes. -/
theorem fillAll_eq_ok : (∃ w, fillAll context v = .ok w) ↔ Completes context v := by
  induction v using template_induction with
  | text s =>
    rw [fillAll, fillText_eq_ok hcontext hparts, completes_text]
  | list items ih =>
    have hitems : (∃ w, fillAll context (.list items) = .ok w) ↔
        ∀ x ∈ items, ∃ y, fillAll context x = .ok y := by
      rw [fillAll, ← exists_forall₂]
      simp [bind_eq_ok, fillItems_eq_ok]
    rw [hitems, completes_list]
    exact forall₂_congr ih
  | dict es ih =>
    have hentries : (∃ w, fillAll context (.dict es) = .ok w) ↔
        ∀ e ∈ es, ∃ f, FillsTo context e f := by
      rw [fillAll, ← exists_forall₂]
      simp [bind_eq_ok, fillEntries_eq_ok]
    rw [hentries, completes_dict]
    exact forall₂_congr fun e he =>
      (fillsTo_iff hcontext hparts).trans (and_congr_right fun _ => ih e he)
  | other v h => exact iff_of_true ⟨v, fillAll_other h⟩ (.other h)

/-- A filled value has texts for keys exactly if all the keys that count become texts. -/
theorem textKeyed_fillAll {w : Value} (h : fillAll context v = .ok w) :
    TextKeyed w ↔ Keyed context v := by
  induction v using template_induction generalizing w with
  | text s =>
    rw [fillAll] at h
    exact iff_of_true (isJson_fillText hcontext h).textKeyed (.text s)
  | list items ih =>
    rw [fillAll] at h
    obtain ⟨ys, hys, hw⟩ := bind_eq_ok.1 h
    obtain rfl := Except.ok.inj hw
    have hall : (∀ x ∈ items, Keyed context x) ↔ ∀ y ∈ ys, TextKeyed y :=
      forall_mem_congr (((List.forall₂_and_left _ _).2 ⟨ih, fillItems_eq_ok.1 hys⟩).imp
        fun x y hxy => (hxy.1 hxy.2).symm)
    rw [textKeyed_list, ← hall]
    constructor
    · exact .list
    · intro h
      cases h with
      | list h => exact h
      | other h => cases h
  | dict es ih =>
    rw [fillAll] at h
    obtain ⟨fs, hfs, hw⟩ := bind_eq_ok.1 h
    obtain rfl := Except.ok.inj hw
    obtain ⟨gs, hgs, rfl⟩ := fillEntries_eq_ok.1 hfs
    have hkeys : (∀ e ∈ es, FillsAs context IsText e.1) ↔ ∀ g ∈ gs, g.1.IsText :=
      forall_mem_congr (hgs.imp fun e g hg =>
        (fillsAs_iff hcontext hparts (fun t => ⟨t, rfl⟩) hg.key))
    -- Filled keys may coincide and the later entry stays: both sides count the latest values only.
    have hvalues : List.Forall₂ (fun e g => fill context e.1 = .ok g.1 ∧
        (Keyed context e.2 ↔ TextKeyed g.2)) es gs :=
      ((List.forall₂_and_left _ _).2 ⟨ih, hgs⟩).imp fun e g hg =>
        ⟨hg.2.key, (hg.1 hg.2.value).symm⟩
    have hlatest := Latest.forall_congr (fun _ _ => Except.ok.inj) hvalues
    rw [textKeyed_dict]
    constructor
    · intro h
      have htexts : ∀ g ∈ gs, g.1.IsText := (Entries.isText_update.1 fun f hf => (h f hf).1).2
      refine .dict (hkeys.2 htexts) (hlatest.2 fun g hg => ?_)
      exact (h g ((Entries.mem_ofList_text htexts).2 hg)).2
    · intro h
      cases h with
      | dict htemplates h =>
        have htexts := hkeys.1 htemplates
        intro f hf
        have hf := (Entries.mem_ofList_text htexts).1 hf
        exact ⟨htexts f hf.mem, hlatest.1 h f hf⟩
      | other h => cases h
  | other v hv =>
    rw [fillAll_other hv, Except.ok.injEq] at h
    subst h
    constructor
    · exact .other hv
    · intro h
      cases h with
      | other _ h => exact h
      | _ => cases hv

end Json

/-! ## Short integers and positions -/

/-- No position in a path has more digits than a numeral may have. -/
def ShortPositions (path : List Char) : Prop :=
  ∀ digits, .index digits ∈ ofPath path → digits.length ≤ Numeral.maxDigits

theorem fillable_of_short (hshort : ¬ context.HoldsLong)
    (hpaths : ∀ path ∈ textPaths s, ShortPositions path) : Fillable context s where
  reached path hpath := not_overruns (hpaths path hpath)
  written _ _ _ _ hfound := not_holdsLong_of_lookup? hshort hfound

theorem StandsFor.not_holdsLong (hshort : ¬ context.HoldsLong) (h : StandsFor context s v) :
    ¬ v.HoldsLong := by
  obtain ⟨path, found, -, hfound, rfl⟩ := h
  cases found with
  | none => exact fun hlong => by cases hlong
  | some v => exact not_holdsLong_of_lookup? hshort hfound

/-- From variables without long integers a value is filled whose paths are short and whose keys are
    texts and no typed tokens. -/
theorem completes_of_short (hshort : ¬ context.HoldsLong)
    (hpaths : ∀ path ∈ valuePaths v, ShortPositions path)
    (hkeys : ∀ k, HoldsKey k v → ∃ t, k = .text t ∧ ∀ path, ¬ IsTyped t path) :
    Completes context v ∧ Keyed context v := by
  induction v using template_induction with
  | text s =>
    rw [valuePaths] at hpaths
    exact ⟨.text (fillable_of_short hshort hpaths), .text s⟩
  | list items ih =>
    rw [valuePaths] at hpaths
    have hall : ∀ x ∈ items, Completes context x ∧ Keyed context x := fun x hx =>
      ih x hx (fun path hpath => hpaths path (mem_itemPaths.2 ⟨x, hx, hpath⟩))
        fun k hk => hkeys k (.item hx hk)
    exact ⟨.list fun x hx => (hall x hx).1, .list fun x hx => (hall x hx).2⟩
  | dict es ih =>
    rw [valuePaths] at hpaths
    have hall : ∀ e ∈ es, Completes context e.2 ∧ Keyed context e.2 := fun e he =>
      ih e he (fun path hpath => hpaths path (mem_entryPaths.2 ⟨e, he, .inr hpath⟩))
        fun k hk => hkeys k (.entry he hk)
    -- A key is a text without a typed token, so it is filled to a text whatever the context holds.
    have hnames : ∀ {P : Value → Prop}, ∀ e ∈ es, FillsAs context P e.1 := fun {P} e he => by
      obtain ⟨t, ht, huntyped⟩ := hkeys e.1 (.key he)
      have hkey : ∀ path ∈ templatePaths e.1, ShortPositions path := fun path hpath =>
        hpaths path (mem_entryPaths.2 ⟨e, he, .inl hpath⟩)
      rw [ht] at hkey ⊢
      exact fillsAs_of_untyped (fillable_of_short hshort hkey) huntyped
    exact ⟨.dict hnames fun e he => (hall e he).1, .dict hnames fun e he => (hall e he.mem).2⟩
  | other v hv =>
    refine ⟨.other hv, .other hv fun k hk => ?_⟩
    obtain ⟨t, rfl, -⟩ := hkeys k hk
    exact ⟨t, rfl⟩

end ApiJourney.Template
