-- SUMMARY: What the reader makes of blank lines.
import ApiJourney.Proofs.Csv.Reader
import ApiJourney.Proofs.Text.Parts

/-!
# Blank lines

A line without anything on it is a record without cells, and a line of other blanks a record with
one blank cell. Neither has any text, and behind it the reader stands between two records again,
as if the line were not there.
-/

namespace ApiJourney.Csv

open ApiJourney.Text ApiJourney.Csv.Reading

/-- A line of nothing but blanks, with its break. -/
structure BlankLine where
  blanks : List Char
  ending : List Char
  areBlank : ∀ c ∈ blanks, isBlank c = true ∧ isBreak c = false
  isEnding : LineBreak ending

namespace BlankLine

variable {line : BlankLine} {lines : List BlankLine}

def written (line : BlankLine) : List Char := line.blanks ++ line.ending

/-- The blanks as a cell: spaces in front of it do not count. -/
def cell (line : BlankLine) : List Char := line.blanks.dropWhile (· == ' ')

/-- The reader has room for the cell. -/
def Fits (line : BlankLine) : Prop := line.cell.length ≤ maxCell

instance : Decidable line.Fits := inferInstanceAs (Decidable (_ ≤ _))

/-- The line as a record. -/
def record (line : BlankLine) : List (List Char) :=
  if line.blanks = [] then [] else [line.cell]

theorem mem_cell {c : Char} (hc : c ∈ line.cell) : isBlank c = true ∧ Reading.isBreak c = false :=
  line.areBlank c ((List.dropWhile_suffix _).subset hc)

theorem trim_cell : trim line.cell = [] :=
  trim_append_blanks (fun _ hc => (mem_cell hc).1) []

end BlankLine

/-- A record with more than blanks in its cells. -/
def hasText (record : List (List Char)) : Bool :=
  record.any fun cell => !(trim cell).isEmpty

namespace Reading

variable {r : Reading} {p q : Position} {c : Char} {cs : List Char} {line : BlankLine}
  {lines : List BlankLine}

/-! ## One line -/

theorem isPlain_of_isBlank (hblank : isBlank c = true) (hbreak : isBreak c = false) :
    isPlain c = true := by
  have hcomma : c ≠ ',' := by
    rintro rfl
    revert hblank
    decide
  simp [isPlain, hbreak, hcomma]

/-- Spaces in front of a cell are passed over. -/
theorem steps_spaces (hspaces : ∀ c ∈ cs, c = ' ')
    (hpos : r.position = .recordStart ∨ r.position = .cellStart) :
    r.steps cs = some { r with position := if cs = [] then r.position else .cellStart } := by
  induction cs generalizing r with
  | nil => rfl
  | cons c cs ih =>
    rw [List.forall_mem_cons] at hspaces
    obtain ⟨rfl, hspaces⟩ := hspaces
    have hstep : r.step ' ' = some { r with position := .cellStart } := by
      rcases hpos with h | h <;> simp [step, h, atRecordStart, atCellStart, isBreak]
    rw [steps, hstep]
    refine (ih hspaces (.inr rfl)).trans ?_
    simp

/-- A cell without quotes, with no space in front. -/
theorem steps_unquoted {rest : List Char}
    (hpos : r.position = .recordStart ∨ r.position = .cellStart) (hcell : r.cell = [])
    (hsize : r.size = 0) (hplain : ∀ d ∈ c :: rest, isPlain d) (hquote : c ≠ '"')
    (hspace : c ≠ ' ') :
    r.steps (c :: rest) =
      if (c :: rest).length ≤ maxCell then
        some { r with position := .plain, cell := (c :: rest).reverse, size := (c :: rest).length }
      else none := by
  rw [List.forall_mem_cons] at hplain
  have hbreak : isBreak c = false := by
    have hc := hplain.1
    rw [isPlain, Bool.and_eq_true, Bool.not_eq_true'] at hc
    exact hc.1
  have hstep : r.step c = some { r with position := .plain, cell := [c], size := 1 } := by
    have hadd : r.add? .plain c = some { r with position := .plain, cell := [c], size := 1 } := by
      simp [add?, hcell, hsize, maxCell]
    rcases hpos with h | h <;>
      simp [step, h, atRecordStart, atCellStart, hbreak, hquote, hspace,
        outside_of_isPlain hplain.1, hadd]
  rw [steps, hstep]
  refine (steps_plain hplain.2 rfl (by simp [maxCell])).trans ?_
  simp [grown, Nat.add_comm]

/-- The blanks of a line are a cell under way. -/
theorem steps_blanks (hne : line.blanks ≠ []) :
    if line.Fits then
      ∃ p size, p.isOpen ∧
        (fresh .recordStart).steps line.blanks = some ⟨p, line.cell.reverse, size, [], []⟩
    else (fresh .recordStart).steps line.blanks = none := by
  have hsplit : line.blanks.takeWhile (· == ' ') ++ line.cell = line.blanks :=
    List.takeWhile_append_dropWhile
  have hspaces : ∀ c ∈ line.blanks.takeWhile (· == ' '), c = ' ' := by
    intro c hc
    simpa using List.mem_takeWhile_imp hc
  have hstart := steps_spaces (r := fresh .recordStart) hspaces (.inl rfl)
  -- Leading spaces are skipped; what stays of the line is one unquoted cell, if anything.
  cases hcell : line.cell with
  | nil =>
    have hfits : line.Fits := by simp [BlankLine.Fits, hcell]
    rw [hcell, List.append_nil] at hsplit
    rw [hsplit, if_neg hne] at hstart
    rw [if_pos hfits]
    exact ⟨.cellStart, 0, rfl, hstart⟩
  | cons c rest =>
    have hmem : ∀ d ∈ c :: rest, isPlain d = true := fun d hd =>
      have hd := BlankLine.mem_cell (hcell ▸ hd)
      isPlain_of_isBlank hd.1 hd.2
    have hblank := (BlankLine.mem_cell (hcell ▸ List.mem_cons_self)).1
    have hquote : c ≠ '"' := by
      rintro rfl
      revert hblank
      decide
    have hspace : c ≠ ' ' := by
      have hhead := List.head?_dropWhile_not (· == ' ') line.blanks
      rw [show line.blanks.dropWhile (· == ' ') = c :: rest from hcell] at hhead
      simpa using hhead
    have hfits : line.Fits ↔ (c :: rest).length ≤ maxCell := by rw [← hcell, BlankLine.Fits]
    rw [← hsplit, steps_append, hstart, hcell, Option.bind_some]
    rw [steps_unquoted (by dsimp only; split_ifs <;> simp [fresh]) rfl rfl hmem hquote hspace]
    simp only [hfits]
    split_ifs
    · exact ⟨.plain, _, rfl, rfl⟩
    · rfl

/-- Behind a blank line that fits the reader stands between two records, with the line as its
    record. -/
theorem steps_blankLine (hfits : line.Fits) : ∃ p : Position, p.isBetween ∧
    (fresh .recordStart).steps line.written = some ((fresh p).behind [line.record]) := by
  by_cases hne : line.blanks = []
  · rw [BlankLine.written, BlankLine.record, if_pos hne, hne]
    exact steps_break_of_recordStart line.isEnding
  · have hblanks := steps_blanks hne
    rw [if_pos hfits] at hblanks
    obtain ⟨q, size, hopen, hsteps⟩ := hblanks
    obtain ⟨p, hp, hending⟩ :=
      steps_break (r := ⟨q, line.cell.reverse, size, [], []⟩) hopen line.isEnding
    refine ⟨p, hp, ?_⟩
    rw [BlankLine.written, steps_append, hsteps, Option.bind_some, hending, BlankLine.record,
      if_neg hne]
    simp [endCell, endRecord, fresh, behind]

theorem steps_blankLine_of_not_fits (hfits : ¬ line.Fits) :
    (fresh .recordStart).steps line.written = none := by
  have hne : line.blanks ≠ [] := by
    intro hnil
    exact hfits (by simp [BlankLine.Fits, BlankLine.cell, hnil])
  have hblanks := steps_blanks hne
  rw [if_neg hfits] at hblanks
  rw [BlankLine.written, steps_append, hblanks, Option.bind_none]

theorem hasText_record : hasText line.record = false := by
  rw [BlankLine.record]
  split_ifs
  · rfl
  · simp [hasText, BlankLine.trim_cell]

/-! ## Records with text -/

/-- The records with text of what is read from a position between two records. -/
def filled? (p : Position) (cs : List Char) : Option (List (List (List Char))) :=
  ((fresh p).steps cs).map fun r => r.finish.filter hasText

theorem filled?_append (q : Position) (records : List (List (List Char))) {rest : List Char}
    (hsteps : (fresh p).steps cs = some ((fresh q).behind records)) :
    filled? p (cs ++ rest) = (filled? q rest).map (records.reverse.filter hasText ++ ·) := by
  rw [filled?, steps_append, hsteps, Option.bind_some, steps_behind, filled?]
  simp [Function.comp_def, finish_behind]

theorem filled?_afterReturn : filled? .afterReturn cs = filled? .recordStart cs := by
  cases cs with
  | nil => rfl
  | cons c cs =>
    by_cases hc : c = '\n'
    · subst hc
      have hreturn : filled? .afterReturn (['\n'] ++ cs) = _ :=
        filled?_append .recordStart [] rfl
      have hstart : filled? .recordStart (['\n'] ++ cs) = _ :=
        filled?_append .recordStart [[]] rfl
      exact hreturn.trans hstart.symm
    · have hstep : (fresh .afterReturn).step c = (fresh .recordStart).step c := by
        have hreturn : (fresh .afterReturn).step c = (fresh .afterReturn).atRecordStart c := by
          simp [step, fresh, hc]
        exact hreturn
      rw [filled?, filled?, steps, steps, hstep]

/-- It does not matter how the record before was ended. -/
theorem filled?_eq (hp : p.isBetween) (hq : q.isBetween) : filled? p cs = filled? q cs := by
  have h : ∀ {p : Position}, p.isBetween → filled? p cs = filled? .recordStart cs := by
    intro p hp
    cases p with
    | recordStart => rfl
    | afterReturn => exact filled?_afterReturn
    | _ => cases hp
  rw [h hp, h hq]

theorem filled?_blankLine (hp : p.isBetween) :
    filled? p (line.written ++ cs) = if line.Fits then filled? p cs else none := by
  rw [filled?_eq hp (q := .recordStart) rfl]
  split_ifs with hfits
  · obtain ⟨q, hq, hsteps⟩ := steps_blankLine hfits
    rw [filled?_append q _ hsteps, filled?_eq hq hp]
    simp [hasText_record]
  · rw [filled?, steps_append, steps_blankLine_of_not_fits hfits]
    rfl

/-- Blank lines between two records are passed over, provided that there is room for them. -/
theorem filled?_blankLines (hp : p.isBetween) :
    filled? p (lines.flatMap BlankLine.written ++ cs) =
      if ∀ line ∈ lines, line.Fits then filled? p cs else none := by
  induction lines with
  | nil => simp
  | cons line lines ih =>
    rw [List.flatMap_cons, List.append_assoc, filled?_blankLine hp, ih]
    by_cases hfits : line.Fits <;> simp [hfits]

/-- A last line without a break is passed over like the others. -/
theorem filled?_blanks (hp : p.isBetween) :
    filled? p line.blanks = if line.Fits then some [] else none := by
  rw [filled?_eq hp (q := .recordStart) rfl]
  by_cases hne : line.blanks = []
  · have hfits : line.Fits := by simp [BlankLine.Fits, BlankLine.cell, hne]
    rw [hne, if_pos hfits]
    rfl
  · have hblanks := steps_blanks hne
    split_ifs with hfits
    · rw [if_pos hfits] at hblanks
      obtain ⟨q, size, hopen, hsteps⟩ := hblanks
      have hfinish : finish ⟨q, line.cell.reverse, size, [], []⟩ = [[line.cell]] := by
        cases q <;> cases hopen <;> simp [finish, endCell, endRecord]
      rw [filled?, hsteps, Option.map_some, hfinish]
      simp [hasText, BlankLine.trim_cell]
    · rw [if_neg hfits] at hblanks
      rw [filled?, hblanks, Option.map_none]

end Reading

end ApiJourney.Csv
