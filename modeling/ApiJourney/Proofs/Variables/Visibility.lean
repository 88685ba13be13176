-- SUMMARY: Which variables templates see, and under which names a variable can be used.
import ApiJourney.Proofs.Template.Placeholder
import ApiJourney.Proofs.Variables.Merge
import ApiJourney.Variables.Layers

/-!
# Variables that templates see

Templates see a variable as it is bound, unless its name is internal or one of the built-in
names. A placeholder finds it there if the name is not taken apart as a path.
-/

namespace ApiJourney.Variables

open Template Text Value

/-- A name that can be written in a placeholder: there is something of it, it has no braces,
    and no blanks at its ends. -/
structure Writable (n : String) : Prop where
  content : Content n.toList
  trimmed : trim n.toList = n.toList

/-- A name of variables that templates see by it: no path with points or brackets, no internal
    name, and none of the built-in ones. -/
structure Visible (n : String) : Prop where
  one_key : ∀ c ∈ n.toList, PathPart.isNameChar c = true
  not_internal : isInternal (.text n) = false
  not_builtIn : n ∉ ["$uuid", "$timestamp", "$isoTimestamp"]

variable {n : String}

theorem get?_context (fresh : Fresh) {es : Entries} (h : es.Distinct) (hn : Visible n) :
    Entries.get? (context fresh [es]) n = (es.get? n).map (mergeValue none) := by
  have hnames := hn.not_builtIn
  simp only [List.mem_cons, List.not_mem_nil, or_false, not_or] at hnames
  obtain ⟨huuid, htimestamp, hiso⟩ := hnames
  have hhidden : ∀ e ∈ mergeAll [es], (!isInternal e.1) = false →
      e.1.sameKey (.text n) = false := by
    rintro ⟨k, v⟩ - hk
    cases k with
    | text s =>
      rw [sameKey_text, beq_eq_false_iff_ne]
      rintro rfl
      simp [hn.not_internal] at hk
    | _ => cases hk
  have hmerged : mergeAll [es] = merge [] es := rfl
  rw [context, Entries.get?_put, if_neg (Ne.symm hiso), Entries.get?_put,
    if_neg (Ne.symm htimestamp), Entries.get?_put, if_neg (Ne.symm huuid), Entries.get?,
    Entries.find?_filter hhidden, hmerged, find?_merge h, Entries.get?]
  exact Option.or_none

/-- What a placeholder becomes that holds the name of a variable. -/
theorem fillHole_context (fresh : Fresh) {es : Entries} (h : es.Distinct) (hn : Writable n)
    (hvisible : Visible n) {v : Value} (hv : es.get? n = some v) (hkeyed : v.isKeyed = true) :
    fillHole (.dict (context fresh [es])) n.toList = (textOf v).map String.toList := by
  have hfound : Entries.get? (context fresh [es]) n = some v := by
    rw [get?_context fresh h hvisible, hv, Option.map_some, mergeValue_none hkeyed]
  rw [fillHole, fillPath, pathOf_of_trim hn.trimmed hn.content.ne_nil,
    lookup?_name _ hn.content.ne_nil hvisible.one_key, String.ofList_toList, hfound]
  rfl

end ApiJourney.Variables
