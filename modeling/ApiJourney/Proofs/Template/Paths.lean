-- SUMMARY: The paths in templates, on which alone it depends what a template is filled with.
import ApiJourney.Proofs.Template.Placeholder

/-!
# Paths in templates

Of its context a template takes what the paths of its placeholders and tokens lead to, so contexts
that agree on these paths fill it alike.
-/

namespace ApiJourney.Template

open ApiJourney.Text

variable {context context' : Value}

/-! ## Paths -/

/-- The paths of the placeholders in a text; the next `skip` characters belong to the last one. -/
def placeholderPaths (skip : Nat) : List Char → List (List Char)
  | [] => []
  | c :: rest =>
    match skip with
    | skip + 1 => placeholderPaths skip rest
    | 0 =>
      match placeholder? (c :: rest) with
      | none => placeholderPaths 0 rest
      | some (path, length) => path :: placeholderPaths (length - 1) rest

/-- The paths in a text: that of a variable token, or those of the placeholders. -/
def textPaths (s : String) : List (List Char) :=
  match tokenBody? s.toList with
  | some body =>
    match split [':'] (some 1) body with
    | [_, path] => [path]
    | _ => []
  | none => placeholderPaths 0 s.toList

/-- The paths in a template; there are none in what is no text. -/
def templatePaths : Value → List (List Char)
  | .text s => textPaths s
  | _ => []

mutual

/-- The paths in all texts inside of a value, those of keys too. -/
def valuePaths : Value → List (List Char)
  | .text s => textPaths s
  | .list xs => itemPaths xs
  | .dict es => entryPaths es
  | _ => []

def itemPaths : List Value → List (List Char)
  | [] => []
  | x :: rest => valuePaths x ++ itemPaths rest

def entryPaths : List (Value × Value) → List (List Char)
  | [] => []
  | (k, v) :: rest => templatePaths k ++ valuePaths v ++ entryPaths rest

end

theorem mem_itemPaths {path : List Char} {items : List Value} :
    path ∈ itemPaths items ↔ ∃ x ∈ items, path ∈ valuePaths x := by
  induction items with
  | nil => simp [itemPaths]
  | cons x items ih => simp [itemPaths, ih]

theorem mem_entryPaths {path : List Char} {es : Entries} :
    path ∈ entryPaths es ↔ ∃ e ∈ es, path ∈ templatePaths e.1 ∨ path ∈ valuePaths e.2 := by
  induction es with
  | nil => simp [entryPaths]
  | cons e es ih =>
    obtain ⟨k, v⟩ := e
    simp [entryPaths, ih, or_assoc]

/-- Two contexts agree on paths: each of these leads to the same. -/
def AgreeOn (paths : List (List Char)) (context context' : Value) : Prop :=
  ∀ path ∈ paths, lookup? context path = lookup? context' path

theorem agreeOn_append {ps qs : List (List Char)} :
    AgreeOn (ps ++ qs) context context' ↔
      AgreeOn ps context context' ∧ AgreeOn qs context context' :=
  List.forall_mem_append

/-! ## Texts -/

theorem fillFrom_congr {skip : Nat} {cs : List Char}
    (h : AgreeOn (placeholderPaths skip cs) context context') :
    fillFrom context skip cs = fillFrom context' skip cs := by
  induction cs generalizing skip with
  | nil => rfl
  | cons c cs ih =>
    cases skip with
    | succ skip => exact ih h
    | zero =>
      cases hfound : placeholder? (c :: cs) with
      | none =>
        simp only [placeholderPaths, hfound] at h
        rw [fillFrom_cons_none hfound, fillFrom_cons_none hfound, ih h]
      | some found =>
        obtain ⟨path, length⟩ := found
        simp only [placeholderPaths, hfound, AgreeOn, List.forall_mem_cons] at h
        rw [fillFrom_cons_some hfound, fillFrom_cons_some hfound, fillPath, fillPath, h.1, ih h.2]

theorem fillText_congr {s : String} (h : AgreeOn (textPaths s) context context') :
    fillText context s = fillText context' s := by
  unfold textPaths at h
  unfold fillText
  cases htoken : tokenBody? s.toList with
  | none =>
    rw [htoken] at h
    rw [fillFrom_congr h]
  | some body =>
    rw [htoken] at h
    dsimp only at h ⊢
    split
    · next kind path hparts =>
      rw [hparts] at h
      rw [fillToken, fillToken, h path (List.mem_singleton_self path)]
    · rfl

theorem fill_congr {v : Value} (h : AgreeOn (templatePaths v) context context') :
    fill context v = fill context' v := by
  cases v with
  | text s => exact fillText_congr h
  | _ => rfl

/-! ## Values -/

mutual

theorem fillAll_congr : ∀ {v : Value}, AgreeOn (valuePaths v) context context' →
    fillAll context v = fillAll context' v
  | .text _, h => by
    rw [valuePaths] at h
    rw [fillAll, fillAll, fillText_congr h]
  | .list _, h => by
    rw [valuePaths] at h
    rw [fillAll, fillAll, fillItems_congr h]
  | .dict _, h => by
    rw [valuePaths] at h
    rw [fillAll, fillAll, fillEntries_congr h]
  | .null, _ | .bool _, _ | .int _, _ | .float _, _ | .bytes _, _ | .tuple _, _ | .complex _ _, _
  | .ellipsis, _ | .foreign _, _ => by
    rw [fillAll, fillAll] <;> nofun

theorem fillItems_congr : ∀ {xs : List Value}, AgreeOn (itemPaths xs) context context' →
    fillItems context xs = fillItems context' xs
  | [], _ => by rw [fillItems, fillItems]
  | x :: rest, h => by
    rw [itemPaths, agreeOn_append] at h
    rw [fillItems, fillItems, fillAll_congr h.1, fillItems_congr h.2]

theorem fillEntries_congr : ∀ {es : List (Value × Value)} {filled : Entries},
    AgreeOn (entryPaths es) context context' →
    fillEntries context filled es = fillEntries context' filled es
  | [], _, _ => by rw [fillEntries, fillEntries]
  | (k, v) :: rest, filled, h => by
    rw [entryPaths, agreeOn_append, agreeOn_append] at h
    obtain ⟨⟨hk, hv⟩, hrest⟩ := h
    have hmore : ∀ filled : Entries, fillEntries context filled rest =
        fillEntries context' filled rest := fun _ => fillEntries_congr hrest
    rw [fillEntries, fillEntries, fill_congr hk, fillAll_congr hv]
    simp only [hmore]

end

end ApiJourney.Template
