-- SUMMARY: What becomes of the placeholders in a text when it is filled, one by one.
import ApiJourney.Proofs.Template.PathParts
import ApiJourney.Proofs.Text.Parts
import ApiJourney.Proofs.Value.Keys
import ApiJourney.Template.Filling
import Mathlib

/-!
# Filling placeholders

A placeholder does not reach over a brace, so the text in front of it and the text behind it
are filled on their own. A name without points and brackets is a path of one key.
-/

namespace ApiJourney.Template

open ApiJourney.Text

variable {context : Value} {content : List Char}

/-! ## Placeholders -/

/-- The placeholder with the given content. -/
def placeholder (content : List Char) : List Char :=
  '\x7b' :: '\x7b' :: (content ++ ['\x7d', '\x7d'])

/-- What can stand in a placeholder: something, and no braces. -/
structure Content (cs : List Char) : Prop where
  ne_nil : cs ≠ []
  no_brace : ∀ c ∈ cs, isBrace c = false

/-- The text of the value that a path leads to, or what was written for it. -/
def fillPath (context : Value) (path written : List Char) : Except Fault (List Char) := do
  match ← lookup? context path with
  | some v => (textOf v).map String.toList
  | none => .ok written

/-- What a placeholder becomes. -/
def fillHole (context : Value) (content : List Char) : Except Fault (List Char) :=
  fillPath context (pathOf content) (placeholder content)

theorem length_placeholder : (placeholder content).length = content.length + 4 := by
  simp [placeholder]

theorem pathOf_of_trim (h : trim content = content) (hne : content ≠ []) :
    pathOf content = content := by
  unfold pathOf
  rw [h]
  cases content with
  | nil => exact absurd rfl hne
  | cons c cs => rfl

theorem placeholder?_placeholder (h : Content content) (rest : List Char) :
    placeholder? (placeholder content ++ rest) = some (pathOf content, content.length + 4) := by
  have hpos : ∀ c ∈ content, (!isBrace c) = true := fun c hc => by simp [h.no_brace c hc]
  have htake : (content ++ '\x7d' :: '\x7d' :: rest).takeWhile (!isBrace ·) = content := by
    rw [List.takeWhile_append_of_pos hpos, List.takeWhile_cons_of_neg (by decide), List.append_nil]
  have hdrop : (content ++ '\x7d' :: '\x7d' :: rest).dropWhile (!isBrace ·)
      = '\x7d' :: '\x7d' :: rest := by
    rw [List.dropWhile_append_of_pos hpos, List.dropWhile_cons_of_neg (by decide)]
  have hempty : content.isEmpty = false := by simp [h.ne_nil]
  simp [placeholder, placeholder?, htake, hdrop, hempty]

/-- A placeholder is not longer than the text that it starts. -/
theorem length_le_of_placeholder? {cs path : List Char} {n : Nat}
    (h : placeholder? cs = some (path, n)) : n ≤ cs.length := by
  unfold placeholder? at h
  split at h
  · next a b rest =>
    split at h
    · dsimp only at h
      split at h
      · next c d more hdrop =>
        split at h
        · cases h
          have hlength := congrArg List.length (List.takeWhile_append_dropWhile
            (p := fun c => !isBrace c) (l := rest))
          rw [List.length_append, hdrop] at hlength
          simp only [List.length_cons] at hlength ⊢
          omega
        · cases h
      · cases h
    · cases h
  · cases h

/-! ## Texts in front of a placeholder -/

/-- An opening of two braces behind a text takes no part in the placeholders of the text. -/
theorem placeholder?_append {cs : List Char} (hcs : cs ≠ []) (rest : List Char) :
    placeholder? (cs ++ '\x7b' :: '\x7b' :: rest) = placeholder? cs := by
  match cs with
  | [] => exact absurd rfl hcs
  | [a] =>
    by_cases ha : a = '\x7b' <;> cases rest <;> simp [placeholder?, ha, isBrace]
  | a :: b :: cs =>
    simp only [List.cons_append, placeholder?]
    split
    · have hsplit := List.takeWhile_append_dropWhile (p := fun c => !isBrace c) (l := cs)
      have hpos : ∀ c ∈ cs.takeWhile (!isBrace ·), (!isBrace c) = true := fun c hc =>
        List.mem_takeWhile_imp (p := fun c => !isBrace c) hc
      cases hdrop : cs.dropWhile (!isBrace ·) with
      | nil =>
        rw [hdrop, List.append_nil] at hsplit
        rw [hsplit] at hpos
        rw [List.dropWhile_append_of_pos hpos, List.dropWhile_cons_of_neg (by decide)]
        simp
      | cons c more =>
        -- The first brace stands in the text itself, and what matters is next to it.
        have hneg : ¬ (!isBrace c) = true := by
          have := List.head?_dropWhile_not (fun c => !isBrace c) cs
          simpa [hdrop] using this
        have hbehind : cs ++ '\x7b' :: '\x7b' :: rest
            = cs.takeWhile (!isBrace ·) ++ c :: (more ++ '\x7b' :: '\x7b' :: rest) := by
          rw [← List.cons_append, ← List.append_assoc, ← hdrop, hsplit]
        rw [hbehind, List.takeWhile_append_of_pos hpos, List.dropWhile_append_of_pos hpos,
          List.takeWhile_cons_of_neg (p := fun c => !isBrace c) hneg,
          List.dropWhile_cons_of_neg (p := fun c => !isBrace c) hneg, List.append_nil]
        cases more <;> simp
    · rfl

/-! ## Filling piece by piece -/

theorem fillFrom_skip (context : Value) (cs rest : List Char) :
    fillFrom context cs.length (cs ++ rest) = fillFrom context 0 rest := by
  induction cs with
  | nil => rfl
  | cons c cs ih => exact ih

theorem fillFrom_cons_none {c : Char} {rest : List Char} (h : placeholder? (c :: rest) = none) :
    fillFrom context 0 (c :: rest) = (do
      let more ← fillFrom context 0 rest
      .ok (c :: more)) := by
  rw [fillFrom, h]

theorem fillFrom_cons_some {c : Char} {rest path : List Char} {length : Nat}
    (h : placeholder? (c :: rest) = some (path, length)) :
    fillFrom context 0 (c :: rest) = (do
      let filled ← fillPath context path ((c :: rest).take length)
      let more ← fillFrom context (length - 1) rest
      .ok (filled ++ more)) := by
  rw [fillFrom, h, fillPath]
  dsimp only
  cases lookup? context path with
  | error f => rfl
  | ok found => cases found <;> rfl

theorem fillFrom_placeholder (context : Value) (h : Content content) (rest : List Char) :
    fillFrom context 0 (placeholder content ++ rest) = (do
      let filled ← fillHole context content
      let more ← fillFrom context 0 rest
      .ok (filled ++ more)) := by
  have hfound := placeholder?_placeholder h rest
  have htake : (placeholder content ++ rest).take (content.length + 4) = placeholder content := by
    rw [← length_placeholder, List.take_left]
  have hskip := fillFrom_skip context ('\x7b' :: (content ++ ['\x7d', '\x7d'])) rest
  rw [show ('\x7b' :: (content ++ ['\x7d', '\x7d'])).length = content.length + 4 - 1 by simp]
    at hskip
  rw [placeholder, List.cons_append] at hfound htake ⊢
  rw [fillFrom_cons_some hfound, htake, hskip]
  rfl

/-- The text in front of two opening braces is filled on its own. -/
theorem fillFrom_append (context : Value) (cs rest : List Char) {skip : Nat}
    (hskip : skip ≤ cs.length) :
    fillFrom context skip (cs ++ '\x7b' :: '\x7b' :: rest) = (do
      let filled ← fillFrom context skip cs
      let more ← fillFrom context 0 ('\x7b' :: '\x7b' :: rest)
      .ok (filled ++ more)) := by
  induction cs generalizing skip with
  | nil =>
    obtain rfl := Nat.le_zero.1 hskip
    rw [List.nil_append, fillFrom]
    cases fillFrom context 0 ('\x7b' :: '\x7b' :: rest) <;> rfl
  | cons c cs ih =>
    cases skip with
    | succ skip => exact ih (Nat.le_of_succ_le_succ hskip)
    | zero =>
      have hsame := placeholder?_append (List.cons_ne_nil c cs) rest
      rw [List.cons_append] at hsame ⊢
      cases hfound : placeholder? (c :: cs) with
      | none =>
        rw [fillFrom_cons_none hfound, fillFrom_cons_none (hsame.trans hfound), ih (Nat.zero_le _)]
        cases fillFrom context 0 cs <;> cases fillFrom context 0 ('\x7b' :: '\x7b' :: rest) <;> rfl
      | some found =>
        obtain ⟨path, length⟩ := found
        have hlength := length_le_of_placeholder? hfound
        -- A placeholder found in `cs` ends in `cs`, so what follows does not change it.
        have htake : (c :: (cs ++ '\x7b' :: '\x7b' :: rest)).take length = (c :: cs).take length := by
          rw [← List.cons_append, List.take_append_of_le_length hlength]
        rw [List.length_cons] at hlength
        rw [fillFrom_cons_some hfound, fillFrom_cons_some (hsame.trans hfound), htake,
          ih (by omega)]
        cases fillPath context path ((c :: cs).take length) <;>
          cases fillFrom context (length - 1) cs <;>
          cases fillFrom context 0 ('\x7b' :: '\x7b' :: rest) <;>
          simp [bind, Except.bind]

/-- A placeholder is filled between what stands around it. -/
theorem fillFrom_around (context : Value) (h : Content content) (before after : List Char) :
    fillFrom context 0 (before ++ (placeholder content ++ after)) = (do
      let front ← fillFrom context 0 before
      let filled ← fillHole context content
      let back ← fillFrom context 0 after
      .ok (front ++ (filled ++ back))) := by
  have hopen : placeholder content ++ after
      = '\x7b' :: '\x7b' :: (content ++ ['\x7d', '\x7d'] ++ after) := rfl
  rw [hopen, fillFrom_append context before _ (Nat.zero_le _), ← hopen,
    fillFrom_placeholder context h]
  cases fillFrom context 0 before <;> cases fillHole context content <;>
    cases fillFrom context 0 after <;> rfl

theorem fillText_of_no_token {cs : List Char} (h : tokenBody? cs = none) (context : Value) :
    fillText context (String.ofList cs) =
      (fillFrom context 0 cs).map fun cs => .text (String.ofList cs) := by
  rw [fillText, String.toList_ofList, h]

theorem tokenBody?_placeholder : tokenBody? (placeholder content) = none := by
  simp [tokenBody?, tokenStart, placeholder]

/-- A text that is a placeholder as a whole becomes what the placeholder becomes. -/
theorem fillText_placeholder (context : Value) (h : Content content) :
    fillText context (String.ofList (placeholder content)) =
      (fillHole context content).map fun cs => .text (String.ofList cs) := by
  have haround := fillFrom_around context h [] []
  rw [List.nil_append, List.append_nil] at haround
  rw [fillText_of_no_token tokenBody?_placeholder, haround]
  cases fillHole context content with
  | error f => rfl
  | ok filled => simp [fillFrom, bind, Except.bind, Except.map]

/-! ## Paths of one key -/

/-- A name without the characters that paths are made with is a path of one key. -/
theorem ofPath_name {n : List Char} (hne : n ≠ []) (h : ∀ c ∈ n, PathPart.isNameChar c = true) :
    PathPart.ofPath n = [.key n] := by
  have hread := PathPart.ofPath_name_append hne h PathPart.endsName_nil
  rwa [List.append_nil, PathPart.ofPath] at hread

theorem lookup?_name (es : Entries) {n : List Char} (hne : n ≠ [])
    (h : ∀ c ∈ n, PathPart.isNameChar c = true) :
    lookup? (.dict es) n = .ok (es.get? (String.ofList n)) := by
  have hempty : n.isEmpty = false := by simp [hne]
  simp only [lookup?, hempty, hasParts, ofPath_name hne h, PathPart.followAll, PathPart.follow]
  cases es.get? (String.ofList n) <;> rfl

end ApiJourney.Template
