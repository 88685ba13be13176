-- SUMMARY: What a key that is no path is looked up as.
import ApiJourney.Proofs.Template.PathParts
import ApiJourney.Proofs.Template.Segments

/-!
# Keys with stray marks

A key that is no path is not refused. Points and brackets in it that belong to no part are passed
over, and it is looked up as the path of the parts that are left. Where no part is left it leads
to the whole context.
-/

namespace ApiJourney.Template

open ApiJourney.Text PathPart

/-! ## Scattered parts -/

/-- A key is the text of a path with at least one part. -/
def IsPathText (key : List Char) : Prop :=
  ∃ ps, ps ≠ [] ∧ (∀ p ∈ ps, p.IsWritable) ∧ pathText ps = key

/-- A text begins with a position in brackets. -/
def BeginsIndex (cs : List Char) : Prop :=
  ∃ digits rest, IsWritable (.index digits) ∧ cs = '[' :: (digits ++ ']' :: rest)

/-- The parts that stand in a key, in order. A name goes as far as it can, digits in brackets are
    a position, and a mark that begins no position is passed over. -/
inductive Scattered : List Char → List PathPart → Prop where
  | nil : Scattered [] []
  | key {name rest : List Char} {ps : List PathPart} :
      IsWritable (.key name) → EndsName rest → Scattered rest ps →
      Scattered (name ++ rest) (.key name :: ps)
  | index {digits rest : List Char} {ps : List PathPart} :
      IsWritable (.index digits) → Scattered rest ps →
      Scattered ('[' :: (digits ++ ']' :: rest)) (.index digits :: ps)
  | mark {c : Char} {rest : List Char} {ps : List PathPart} :
      isNameChar c = false → ¬ BeginsIndex (c :: rest) → Scattered rest ps →
      Scattered (c :: rest) ps

variable {c : Char} {key rest : List Char} {ps : List PathPart}

theorem isNameChar_eq_false : isNameChar c = false ↔ c = '.' ∨ c = '[' ∨ c = ']' := by
  simp only [isNameChar, Bool.and_eq_false_iff, bne_eq_false_iff_eq, or_assoc]

theorem isNameChar_of_isDecimal (h : isDecimal c = true) : isNameChar c = true := by
  by_contra hname
  rcases isNameChar_eq_false.1 (Bool.eq_false_iff.2 hname) with rfl | rfl | rfl <;>
    exact absurd h (by decide)

/-- A mark that begins no position counts for nothing. -/
theorem ofPath_mark (hc : isNameChar c = false) (hindex : ¬ BeginsIndex (c :: rest)) :
    ofPath (c :: rest) = ofPath rest := by
  rcases isNameChar_eq_false.1 hc with rfl | rfl | rfl
  · exact ofPath_point rest
  · rw [ofPath_cons]
    have hsplit := List.takeWhile_append_dropWhile (p := isDecimal) (l := rest)
    unfold next
    rw [if_pos (beq_self_eq_true '[')]
    split
    · next d ds after htake hdrop =>
      rw [htake, hdrop] at hsplit
      refine absurd ⟨d :: ds, after, ⟨List.cons_ne_nil d ds, fun x hx => ?_⟩, ?_⟩ hindex
      · exact List.mem_takeWhile_imp (htake ▸ hx)
      · rw [hsplit]
    · rfl
  · rw [ofPath_cons]
    rfl

namespace Scattered

/-- The parts that stand in a key are those that it is taken apart into. -/
theorem ofPath_eq (h : Scattered key ps) : ofPath key = ps := by
  induction h with
  | nil => rw [ofPath]
  | key hname hrest _ ih => rw [ofPath_name_append hname.1 hname.2 hrest, ih]
  | index hdigits _ ih => rw [ofPath_index hdigits.1 hdigits.2, ih]
  | mark hc hindex _ ih => rw [ofPath_mark hc hindex, ih]

theorem isWritable (h : Scattered key ps) : ∀ p ∈ ps, p.IsWritable := by
  induction h with
  | nil => exact List.forall_mem_nil _
  | key hname _ _ ih => exact List.forall_mem_cons.2 ⟨hname, ih⟩
  | index hdigits _ ih => exact List.forall_mem_cons.2 ⟨hdigits, ih⟩
  | mark _ _ _ ih => exact ih

/-- No part stands in a key exactly where the key is all marks. -/
theorem eq_nil_iff (h : Scattered key ps) : ps = [] ↔ ∀ c ∈ key, isNameChar c = false := by
  induction h with
  | nil => exact iff_of_true rfl (List.forall_mem_nil _)
  | @key name rest ps hname _ _ _ =>
    obtain ⟨c, cs, rfl⟩ := List.exists_cons_of_ne_nil hname.1
    refine iff_of_false (List.cons_ne_nil _ _) fun hmarks => ?_
    have hc := hname.2 c List.mem_cons_self
    rw [hmarks c (List.mem_append_left _ List.mem_cons_self)] at hc
    cases hc
  | @index digits rest ps hdigits _ _ =>
    obtain ⟨d, ds, rfl⟩ := List.exists_cons_of_ne_nil hdigits.1
    refine iff_of_false (List.cons_ne_nil _ _) fun hmarks => ?_
    have hd := isNameChar_of_isDecimal (hdigits.2 d List.mem_cons_self)
    rw [hmarks d (by simp)] at hd
    cases hd
  | mark hc _ _ ih => rw [ih, List.forall_mem_cons, and_iff_right hc]

end Scattered

theorem exists_scattered (key : List Char) : ∃ ps, Scattered key ps := by
  match key with
  | [] => exact ⟨[], .nil⟩
  | c :: rest =>
    cases hc : isNameChar c with
    | true =>
      have hlength := length_dropWhile_le isNameChar rest
      obtain ⟨ps, hps⟩ := exists_scattered (rest.dropWhile isNameChar)
      have hname : IsWritable (.key (c :: rest.takeWhile isNameChar)) :=
        ⟨List.cons_ne_nil _ _, List.forall_mem_cons.2 ⟨hc, fun x hx => List.mem_takeWhile_imp hx⟩⟩
      have hkey := Scattered.key hname (endsName_dropWhile rest) hps
      rw [List.cons_append, List.takeWhile_append_dropWhile] at hkey
      exact ⟨_, hkey⟩
    | false =>
      by_cases hindex : BeginsIndex (c :: rest)
      · obtain ⟨digits, after, hdigits, heq⟩ := hindex
        obtain ⟨ps, hps⟩ := exists_scattered after
        rw [heq]
        exact ⟨_, .index hdigits hps⟩
      · obtain ⟨ps, hps⟩ := exists_scattered rest
        exact ⟨ps, .mark hc hindex hps⟩
termination_by key.length
decreasing_by
  all_goals simp_all
  all_goals omega

/-! ## Looking up -/

theorem Scattered.isPathText_iff (h : Scattered key ps) :
    IsPathText key ↔ ps ≠ [] ∧ pathText ps = key := by
  constructor
  · rintro ⟨qs, hne, hwritable, rfl⟩
    obtain rfl := h.ofPath_eq.symm.trans (ofPath_pathText hwritable)
    exact ⟨hne, rfl⟩
  · rintro ⟨hne, heq⟩
    exact ⟨ps, hne, h.isWritable, heq⟩

/-- A key is looked up along the parts that stand in it. -/
theorem Scattered.lookup?_eq (h : Scattered key ps) (context : Value) :
    lookup? context key =
      if hasParts context = false ∨ key = [] then .ok none
      else if ps = [] then .ok (some context)
      else lookup? context (pathText ps) := by
  by_cases hnone : hasParts context = false ∨ key = []
  · rw [if_pos hnone, lookup?, if_pos]
    rcases hnone with hcontext | rfl
    · simp [hcontext]
    · rfl
  · rw [if_neg hnone]
    rw [not_or, Bool.not_eq_false] at hnone
    have hfollow : lookup? context key = followAll context ps := by
      rw [lookup?, List.isEmpty_eq_false_iff.2 hnone.2, hnone.1, h.ofPath_eq]
      rfl
    rw [hfollow]
    split
    · next hnil =>
      rw [hnil]
      rfl
    · next hne => rw [lookup?_pathText hnone.1 hne h.isWritable]

theorem fill_placeholder (hkey : IsPath key) {context : Value} {found : Option Value}
    (hfound : lookup? context key = .ok found) :
    fill context (.text (String.ofList (placeholder key))) =
      found.elim (.ok (.text (String.ofList (placeholder key)))) fun v => (textOf v).map .text := by
  have hcontent := hkey.content (List.forall_mem_nil _) (List.forall_mem_nil _)
  have hpath := hkey.pathOf_eq (List.forall_mem_nil _) (List.forall_mem_nil _)
  rw [List.nil_append, List.append_nil] at hcontent hpath
  rw [fill, fillText_placeholder context hcontent, fillHole, fillPath, hpath, hfound]
  cases found with
  | none => rfl
  | some v => cases htext : textOf v <;> simp [htext, Except.map, bind, Except.bind]

/-- In each key stand parts, in one way only. The key is a path if it is the text of them.
    Whether it is or not, it is looked up as the path that they make up; if there are none, as in
    a key that is all marks, it leads to the whole context. A placeholder with the key becomes
    the text of what is found, and stays where nothing is. -/
theorem lookup?_scattered (context : Value) (key : List Char) :
    ∃ ps, Scattered key ps ∧ (∀ qs, Scattered key qs → qs = ps) ∧
      (IsPathText key ↔ ps ≠ [] ∧ pathText ps = key) ∧
      (ps = [] ↔ ∀ c ∈ key, isNameChar c = false) ∧
      (lookup? context key =
        if hasParts context = false ∨ key = [] then .ok none
        else if ps = [] then .ok (some context)
        else lookup? context (pathText ps)) ∧
      (IsPath key → ∀ found, lookup? context key = .ok found →
        fill context (.text (String.ofList (placeholder key))) =
          found.elim (.ok (.text (String.ofList (placeholder key)))) fun v =>
            (textOf v).map .text) := by
  obtain ⟨ps, hps⟩ := exists_scattered key
  exact ⟨ps, hps, fun qs hqs => hqs.ofPath_eq.symm.trans hps.ofPath_eq, hps.isPathText_iff,
    hps.eq_nil_iff, hps.lookup?_eq context, fun hkey _ hfound => fill_placeholder hkey hfound⟩

/-- A user among the variables, and a secret of the environment. -/
def keyring : Value :=
  .object [("user", .object [("name", .text "ann")]), ("env", .object [("KEY", .text "s3cret")])]

/-- A second point, and brackets around a name. -/
def strayKey : List Char := "user..[name]".toList

theorem isPath_strayKey : IsPath strayKey where
  ne_nil := List.cons_ne_nil _ _
  no_brace := fun c hc => by
    have hall : strayKey.all (!isBrace ·) = true := rfl
    simpa using List.all_eq_true.1 hall c hc
  trimmed := trim_of_ends (by rintro _ ⟨⟩; rfl) (by rintro _ ⟨⟩; rfl)

theorem fill_strayKey :
    IsPath strayKey ∧ lookup? keyring strayKey = .ok (some (.text "ann")) ∧
    fill keyring (.text "\x7b\x7buser..[name]\x7d\x7d") = .ok (.text "ann") := by
  have hfound : lookup? keyring strayKey = .ok (some (.text "ann")) := by cbv
  obtain ⟨_, -, -, -, -, -, hfill⟩ := lookup?_scattered keyring strayKey
  exact ⟨isPath_strayKey, hfound, hfill isPath_strayKey _ hfound⟩

theorem scattered_points : Scattered ['.', '.'] [] := by
  have hpoint : ∀ rest, ¬ BeginsIndex ('.' :: rest) := by
    rintro rest ⟨digits, after, -, h⟩
    cases h
  exact .mark rfl (hpoint _) (.mark rfl (hpoint _) .nil)

/-- Two points are no path, and lead to all variables at once. -/
theorem lookup?_not_missing : ¬ ∀ context key, ¬ IsPathText key → lookup? context key = .ok none := by
  intro h
  have hno : ¬ IsPathText ['.', '.'] := fun hpath =>
    (scattered_points.isPathText_iff.1 hpath).1 rfl
  have hall : lookup? keyring ['.', '.'] = .ok (some keyring) :=
    scattered_points.lookup?_eq keyring
  rw [h keyring _ hno] at hall
  cases hall

end ApiJourney.Template
