-- SUMMARY: Parts of texts: what is left of a text when it is trimmed, and runs of characters.
import ApiJourney.Text.Blank
import ApiJourney.Text.Utf8
import Mathlib.Data.List.DropRight
import Mathlib.Data.List.Infix
import Mathlib.Data.List.TakeWhile

/-!
# Parts of texts

What is made of a text is often a part of it, and a part has no longer run of characters of a
kind than the whole.
-/

namespace ApiJourney.Text

/-! ## Trimming -/

theorem dropEndWhile_isPrefix (p : Char → Bool) (cs : List Char) : dropEndWhile p cs <+: cs := by
  rw [dropEndWhile, ← List.reverse_suffix, List.reverse_reverse]
  exact List.dropWhile_suffix _

theorem trimStart_suffix (cs : List Char) : trimStart cs <:+ cs :=
  List.dropWhile_suffix _

theorem trim_isInfix (cs : List Char) : trim cs <:+: cs :=
  (dropEndWhile_isPrefix _ _).isInfix.trans (trimStart_suffix cs).isInfix

/-- Nothing is trimmed where no blank stands at the ends. -/
theorem trim_of_ends {cs : List Char} (hfirst : ∀ c ∈ cs.head?, isBlank c = false)
    (hlast : ∀ c ∈ cs.getLast?, isBlank c = false) : trim cs = cs := by
  have hfront : trimStart cs = cs := by
    cases cs with
    | nil => rfl
    | cons c cs => exact List.dropWhile_cons_of_neg (by simpa using hfirst)
  have hback : cs.reverse.dropWhile isBlank = cs.reverse := by
    rw [← List.head?_reverse] at hlast
    cases hcs : cs.reverse with
    | nil => rfl
    | cons c rest =>
      rw [hcs] at hlast
      exact List.dropWhile_cons_of_neg (by simpa using hlast)
  rw [trim, hfront, trimEnd, dropEndWhile, hback, List.reverse_reverse]

/-- What is dropped at the end stands behind all that is kept. -/
theorem dropEndWhile_append {p : Char → Bool} {c : Char} (hc : p c = false) (cs ds : List Char) :
    dropEndWhile p (cs ++ c :: ds) = cs ++ c :: dropEndWhile p ds := by
  have hkept : (c :: cs.reverse).dropWhile p = c :: cs.reverse :=
    List.dropWhile_cons_of_neg (by simp [hc])
  have hreverse : (cs ++ c :: ds).reverse = ds.reverse ++ c :: cs.reverse := by simp
  rw [dropEndWhile, dropEndWhile, hreverse, List.dropWhile_append, hkept]
  split_ifs with hempty
  · rw [List.isEmpty_iff.1 hempty]
    simp
  · simp

theorem dropEndWhile_cons {p : Char → Bool} {c : Char} (hc : p c = false) (cs : List Char) :
    dropEndWhile p (c :: cs) = c :: dropEndWhile p cs :=
  dropEndWhile_append hc [] cs

theorem trimEnd_concat {c : Char} (hc : isBlank c = false) (cs : List Char) :
    trimEnd (cs ++ [c]) = cs ++ [c] :=
  dropEndWhile_append hc cs []

theorem trimEnd_trimEnd (cs : List Char) : trimEnd (trimEnd cs) = trimEnd cs := by
  simp [trimEnd, dropEndWhile, List.dropWhile_idempotent]

/-- Where the first character is no blank, only the other end is trimmed. -/
theorem trim_cons {c : Char} (hc : isBlank c = false) (cs : List Char) :
    trim (c :: cs) = c :: trimEnd cs := by
  have hfront : trimStart (c :: cs) = c :: cs := List.dropWhile_cons_of_neg (by simp [hc])
  rw [trim, hfront, trimEnd, dropEndWhile_cons hc, trimEnd]

/-- What is left of a text that is not all blank starts at its first character that is no blank. -/
theorem trim_eq_cons {c : Char} {cs rest : List Char} (h : trim cs = c :: rest) :
    isBlank c = false ∧ ∃ behind, trimStart cs = c :: behind ∧ rest = trimEnd behind := by
  rw [trim] at h
  cases hfront : trimStart cs with
  | nil =>
    rw [hfront] at h
    cases h
  | cons d behind =>
    have hd : isBlank d = false := by
      have hhead := List.head?_dropWhile_not isBlank cs
      rw [show cs.dropWhile isBlank = d :: behind from hfront] at hhead
      exact hhead
    rw [hfront, trimEnd, dropEndWhile_cons hd] at h
    obtain ⟨rfl, rfl⟩ := List.cons.inj h
    exact ⟨hd, behind, rfl, rfl⟩

theorem trim_trim (cs : List Char) : trim (trim cs) = trim cs := by
  cases h : trim cs with
  | nil => rfl
  | cons c rest =>
    obtain ⟨hc, behind, -, rfl⟩ := trim_eq_cons h
    rw [trim_cons hc, trimEnd_trimEnd]

theorem not_isBlank_of_trimStart {cs : List Char} (h : trimStart cs = cs) :
    ∀ c ∈ cs.head?, isBlank c = false := by
  intro c hc
  have hfirst := List.head?_dropWhile_not isBlank cs
  rw [show cs.dropWhile isBlank = cs from h, hc] at hfirst
  exact hfirst

theorem not_isBlank_of_trimEnd {cs : List Char} (h : trimEnd cs = cs) :
    ∀ c ∈ cs.getLast?, isBlank c = false := by
  rw [← List.head?_reverse]
  exact not_isBlank_of_trimStart (List.reverse_eq_iff.1 h)

theorem trimStart_of_trim {cs : List Char} (h : trim cs = cs) : trimStart cs = cs := by
  refine (trimStart_suffix cs).eq_of_length_le ?_
  calc cs.length = (trim cs).length := by rw [h]
    _ ≤ (trimStart cs).length := (dropEndWhile_isPrefix isBlank (trimStart cs)).length_le

theorem trimEnd_of_trim {cs : List Char} (h : trim cs = cs) : trimEnd cs = cs := by
  have hfront := trimStart_of_trim h
  rwa [trim, hfront] at h

/-- The ends of what is trimmed already are no blanks. -/
theorem not_isBlank_of_trim {cs : List Char} (h : trim cs = cs) :
    (∀ c ∈ cs.head?, isBlank c = false) ∧ ∀ c ∈ cs.getLast?, isBlank c = false :=
  ⟨not_isBlank_of_trimStart (trimStart_of_trim h), not_isBlank_of_trimEnd (trimEnd_of_trim h)⟩

/-- Blanks behind a text are trimmed away with its own. -/
theorem trim_append_blanks {blanks : List Char} (h : ∀ c ∈ blanks, isBlank c = true)
    (cs : List Char) : trim (cs ++ blanks) = trim cs := by
  have hfront : trimStart (cs ++ blanks) =
      if trimStart cs = [] then [] else trimStart cs ++ blanks := by
    rw [trimStart, List.dropWhile_append, List.dropWhile_eq_nil_iff.2 h, trimStart]
    simp only [List.isEmpty_iff]
  have hback : ∀ ds : List Char, trimEnd (ds ++ blanks) = trimEnd ds := by
    intro ds
    have hreverse : ∀ c ∈ blanks.reverse, isBlank c = true := fun c hc =>
      h c (List.mem_reverse.1 hc)
    rw [trimEnd, trimEnd, dropEndWhile, dropEndWhile, List.reverse_append,
      List.dropWhile_append_of_pos hreverse]
  rw [trim, trim, hfront]
  split_ifs with hnil
  · rw [hnil]
  · exact hback _

theorem mem_dropWhile_of_not {p : Char → Bool} {c : Char} (hc : p c = false) {cs : List Char}
    (h : c ∈ cs) : c ∈ cs.dropWhile p := by
  rw [← List.takeWhile_append_dropWhile (p := p) (l := cs)] at h
  refine (List.mem_append.1 h).resolve_left fun htake => ?_
  exact absurd (List.mem_takeWhile_imp htake) (by simp [hc])

/-- Trimming takes nothing but blanks away. -/
theorem mem_trim_iff {c : Char} (hc : isBlank c = false) {cs : List Char} :
    c ∈ trim cs ↔ c ∈ cs := by
  refine ⟨fun h => (trim_isInfix cs).subset h, fun h => ?_⟩
  rw [trim, trimEnd, dropEndWhile, List.mem_reverse]
  exact mem_dropWhile_of_not hc (List.mem_reverse.2 (mem_dropWhile_of_not hc h))

/-! ## Fronts -/

/-- What is taken from a text up to where it stops. -/
theorem takeWhile_stopped {p : α → Bool} {xs rest : List α} (h : ∀ x ∈ xs, p x = true)
    (hstop : ∀ x ∈ rest.head?, p x = false) : (xs ++ rest).takeWhile p = xs := by
  have hrest : rest.takeWhile p = [] := by
    cases rest with
    | nil => rfl
    | cons x rest => exact List.takeWhile_cons_of_neg (by simp [hstop x rfl])
  rw [List.takeWhile_append_of_pos h, hrest, List.append_nil]

theorem dropWhile_stopped {p : α → Bool} {xs rest : List α} (h : ∀ x ∈ xs, p x = true)
    (hstop : ∀ x ∈ rest.head?, p x = false) : (xs ++ rest).dropWhile p = rest := by
  have hsplit := List.takeWhile_append_dropWhile (p := p) (l := xs ++ rest)
  rw [takeWhile_stopped h hstop] at hsplit
  exact List.append_cancel_left hsplit

/-! ## Runs -/

/-- Somewhere in a text stand more than so many characters of a kind in a row. -/
def HasRun (ok : Char → Bool) (n : Nat) (cs : List Char) : Prop :=
  ∃ run, run <:+: cs ∧ n < run.length ∧ ∀ c ∈ run, ok c = true

theorem HasRun.mono {ok : Char → Bool} {n : Nat} {cs ds : List Char} (h : HasRun ok n cs)
    (hcs : cs <:+: ds) : HasRun ok n ds :=
  let ⟨run, hrun, hlong, hok⟩ := h
  ⟨run, hrun.trans hcs, hlong, hok⟩

theorem HasRun.of_cons {ok : Char → Bool} {n : Nat} {c : Char} {cs : List Char}
    (hc : ok c = false) (h : HasRun ok n (c :: cs)) : HasRun ok n cs := by
  obtain ⟨run, hrun, hlong, hok⟩ := h
  rcases List.infix_cons_iff.1 hrun with hbegins | hinside
  · cases run with
    | nil => exact absurd hlong (Nat.not_lt_zero n)
    | cons d run =>
      obtain ⟨rfl, -⟩ := List.cons_prefix_cons.1 hbegins
      exact absurd (hok d List.mem_cons_self) (by simp [hc])
  · exact ⟨run, hinside, hlong, hok⟩

/-! ## Bytes -/

namespace Utf8

variable {cs : List Char}

/-- The bytes of a text of characters that take one byte each. -/
def ascii (cs : List Char) : List UInt8 :=
  cs.map fun c => c.toNat.toUInt8

theorem pieces_ascii (h : ∀ c ∈ cs, c.toNat < 0x80) : pieces (ascii cs) = cs.map .ok := by
  induction cs with
  | nil => rw [ascii, List.map_nil, pieces, List.map_nil]
  | cons c cs ih =>
    rw [List.forall_mem_cons] at h
    have hbyte : c.toNat.toUInt8.toNat = c.toNat := by
      simp [Nat.mod_eq_of_lt (show c.toNat < 256 by omega)]
    rw [ascii, List.map_cons, pieces, hbyte, if_pos h.1, Char.ofNat_toNat, List.map_cons]
    exact congrArg _ (ih h.2)

/-- Characters without a malformed piece between them are a text. -/
theorem decode?_of_pieces {bs : List UInt8} (h : pieces bs = cs.map .ok) : decode? bs = some cs := by
  have hitems : cs.mapM (fun c => Except.toOption (.ok c : Except (List UInt8) Char)) = some cs :=
    (List.mapM_pure (m := Option)).trans (by simp)
  rw [decode?, h, List.mapM_map]
  exact hitems

theorem decode?_ascii (h : ∀ c ∈ cs, c.toNat < 0x80) : decode? (ascii cs) = some cs :=
  decode?_of_pieces (pieces_ascii h)

end Utf8

end ApiJourney.Text
