-- SUMMARY: How comma-separated texts are read, one part of a text after another.
import ApiJourney.Csv.Reader
import Mathlib.Tactic.SplitIfs

/-!
# Readings of comma-separated texts

The reader looks back no further than the record under way: what stands before it is carried
along (`Reading.behind`), and between two records nothing else is left of what was read. So a
text is read part by part, and the parts after a closed record as if a text started there.
-/

namespace ApiJourney.Csv

/-- Between two records no record is under way. -/
def Position.isBetween : Position → Bool
  | .recordStart => true
  | .afterReturn => true
  | _ => false

/-- A cell is under way outside of quotes, or could be. -/
def Position.isOpen : Position → Bool
  | .cellStart => true
  | .plain => true
  | .afterQuote => true
  | _ => false

namespace Reading

variable {r r' : Reading} {p next : Position} {c : Char} {cs rest : List Char}
  {records : List (List (List Char))}

/-! ## Parts -/

theorem steps_append (r : Reading) (cs rest : List Char) :
    r.steps (cs ++ rest) = (r.steps cs).bind (·.steps rest) := by
  induction cs generalizing r with
  | nil => rfl
  | cons c cs ih =>
    rw [List.cons_append, steps, steps]
    cases r.step c with
    | none => rfl
    | some r => exact ih r

theorem steps_singleton (r : Reading) (c : Char) : r.steps [c] = r.step c := by
  rw [steps]
  cases r.step c <;> rfl

/-! ## Records before -/

/-- The same reading with records before its own. -/
def behind (records : List (List (List Char))) (r : Reading) : Reading :=
  { r with records := r.records ++ records }

@[simp] theorem behind_position : (r.behind records).position = r.position := rfl

theorem outside_behind : (r.behind records).outside c = (r.outside c).map (behind records) := by
  simp only [outside, add?]
  split_ifs <;> simp_all [behind, endCell, endRecord]

theorem atCellStart_behind :
    (r.behind records).atCellStart c = (r.atCellStart c).map (behind records) := by
  simp only [atCellStart, outside_behind]
  split_ifs <;> rfl

theorem atRecordStart_behind :
    (r.behind records).atRecordStart c = (r.atRecordStart c).map (behind records) := by
  simp only [atRecordStart, atCellStart_behind]
  split_ifs <;> rfl

theorem add?_behind : (r.behind records).add? next c = (r.add? next c).map (behind records) := by
  simp only [add?]
  split_ifs <;> simp_all [behind]

theorem step_behind : (r.behind records).step c = (r.step c).map (behind records) := by
  simp only [step, behind_position, outside_behind, atCellStart_behind, atRecordStart_behind,
    add?_behind]
  split <;> first | rfl | (split_ifs <;> rfl)

/-- The records before are carried along. -/
theorem steps_behind : (r.behind records).steps cs = (r.steps cs).map (behind records) := by
  induction cs generalizing r with
  | nil => rfl
  | cons c cs ih =>
    rw [steps, steps, step_behind]
    cases r.step c with
    | none => rfl
    | some r => exact ih

theorem finish_behind : (r.behind records).finish = records.reverse ++ r.finish := by
  simp only [finish, behind_position]
  split <;> simp [behind, endCell, endRecord]

/-! ## What holds along a reading -/

/-- What holds of all that the reader makes of a text: the cell under way has its length and is
    not too long, nothing is left of it before a cell starts, nor of the record between two. -/
structure Sound (r : Reading) : Prop where
  size : r.size = r.cell.length
  room : r.size ≤ maxCell
  cell : r.position.isBetween ∨ r.position = .cellStart → r.cell = []
  cells : r.position.isBetween → r.cells = []
  records : r.position = .afterReturn → r.records ≠ []

theorem sound_start : start.Sound where
  size := rfl
  room := Nat.zero_le _
  cell _ := rfl
  cells _ := rfl
  records := nofun

/-- A position may be changed where nothing is left of the cell, or more of it is to come. -/
theorem Sound.at (h : r.Sound) (hcell : next.isBetween ∨ next = .cellStart → r.cell = [])
    (hcells : next.isBetween → r.cells = []) (hrecords : next = .afterReturn → r.records ≠ []) :
    Sound { r with position := next } :=
  ⟨h.size, h.room, hcell, hcells, hrecords⟩

theorem Sound.add (h : r.Sound) (hadd : r.add? next c = some r') (hcell : next ≠ .cellStart)
    (hbetween : next.isBetween = false) : r'.Sound := by
  rw [add?] at hadd
  split_ifs at hadd with hfull
  cases hadd
  refine ⟨by simp [h.size], Nat.lt_of_not_le hfull, ?_, ?_, ?_⟩
  · rintro (hnext | hnext)
    · simp [hbetween] at hnext
    · exact absurd hnext hcell
  · simp [hbetween]
  · rintro rfl
    cases hbetween

theorem Sound.endCell : (r.endCell .cellStart).Sound :=
  ⟨rfl, Nat.zero_le _, fun _ => rfl, nofun, nofun⟩

theorem Sound.endRecord (h : r.Sound) (hcell : r.cell = []) : (r.endRecord (afterBreak c)).Sound :=
  ⟨h.size, h.room, fun _ => hcell, fun _ => rfl, fun _ => List.cons_ne_nil _ _⟩

theorem Sound.outside (h : r.Sound) (hstep : r.outside c = some r') : r'.Sound := by
  rw [Reading.outside] at hstep
  split_ifs at hstep
  · cases hstep
    exact Sound.endCell.endRecord rfl
  · cases hstep
    exact Sound.endCell
  · exact h.add hstep nofun rfl

theorem Sound.atCellStart (h : r.Sound) (hcell : r.cell = []) (hstep : r.atCellStart c = some r') :
    r'.Sound := by
  rw [Reading.atCellStart] at hstep
  split_ifs at hstep
  · cases hstep
    exact h.at (fun _ => hcell) nofun nofun
  · cases hstep
    exact h.at (fun _ => hcell) nofun nofun
  · exact h.outside hstep

theorem Sound.atRecordStart (h : r.Sound) (hcell : r.cell = [])
    (hstep : r.atRecordStart c = some r') : r'.Sound := by
  rw [Reading.atRecordStart] at hstep
  split_ifs at hstep
  · cases hstep
    exact h.endRecord hcell
  · exact h.atCellStart hcell hstep

theorem Sound.step (h : r.Sound) (hstep : r.step c = some r') : r'.Sound := by
  rw [Reading.step] at hstep
  split at hstep
  case h_1 hpos => exact h.atRecordStart (h.cell (by simp [hpos, Position.isBetween])) hstep
  case h_2 hpos =>
    have hcell : r.cell = [] := h.cell (by simp [hpos, Position.isBetween])
    split_ifs at hstep
    · cases hstep
      exact h.at (fun _ => hcell) (fun _ => h.cells (by simp [hpos, Position.isBetween])) nofun
    · exact h.atRecordStart hcell hstep
  case h_3 hpos => exact h.atCellStart (h.cell (by simp [hpos])) hstep
  case h_4 => exact h.outside hstep
  case h_5 =>
    split_ifs at hstep
    · cases hstep
      exact h.at (by simp [Position.isBetween]) nofun nofun
    · exact h.add hstep nofun rfl
  case h_6 =>
    split_ifs at hstep
    · exact h.add hstep nofun rfl
    · exact h.outside hstep

theorem Sound.steps (h : r.Sound) (hsteps : r.steps cs = some r') : r'.Sound := by
  induction cs generalizing r with
  | nil =>
    cases hsteps
    exact h
  | cons c cs ih =>
    rw [Reading.steps] at hsteps
    split at hsteps
    case h_1 hstep => exact ih (h.step hstep) hsteps
    case h_2 => cases hsteps

theorem records_ne_nil_of_outside (hstep : r.outside c = some r')
    (hbetween : r'.position.isBetween) : r'.records ≠ [] := by
  simp only [Reading.outside, add?] at hstep
  split_ifs at hstep <;> cases hstep
  · exact List.cons_ne_nil _ _
  · cases hbetween
  · cases hbetween

theorem records_ne_nil_of_atCellStart (hstep : r.atCellStart c = some r')
    (hbetween : r'.position.isBetween) : r'.records ≠ [] := by
  rw [Reading.atCellStart] at hstep
  split_ifs at hstep
  · cases hstep
    cases hbetween
  · cases hstep
    cases hbetween
  · exact records_ne_nil_of_outside hstep hbetween

theorem records_ne_nil_of_atRecordStart (hstep : r.atRecordStart c = some r')
    (hbetween : r'.position.isBetween) : r'.records ≠ [] := by
  rw [Reading.atRecordStart] at hstep
  split_ifs at hstep
  · cases hstep
    exact List.cons_ne_nil _ _
  · exact records_ne_nil_of_atCellStart hstep hbetween

/-- A character that ends up between two records has a record before it. -/
theorem records_ne_nil_of_step (h : r.Sound) (hstep : r.step c = some r')
    (hbetween : r'.position.isBetween) : r'.records ≠ [] := by
  -- Adding a character stays within the cell, so only the other moves can end a record.
  have hadd : ∀ {next : Position}, next.isBetween = false → r.add? next c ≠ some r' := by
    intro next hnext hadded
    rw [add?] at hadded
    split_ifs at hadded
    cases hadded
    exact absurd hbetween (by simp [hnext])
  rw [Reading.step] at hstep
  split at hstep
  case h_1 => exact records_ne_nil_of_atRecordStart hstep hbetween
  case h_2 hpos =>
    split_ifs at hstep
    · cases hstep
      exact h.records hpos
    · exact records_ne_nil_of_atRecordStart hstep hbetween
  case h_3 => exact records_ne_nil_of_atCellStart hstep hbetween
  case h_4 => exact records_ne_nil_of_outside hstep hbetween
  case h_5 =>
    split_ifs at hstep
    · cases hstep
      cases hbetween
    · exact absurd hstep (hadd rfl)
  case h_6 =>
    split_ifs at hstep
    · exact absurd hstep (hadd rfl)
    · exact records_ne_nil_of_outside hstep hbetween

/-- A text that ends between two records has a record. -/
theorem records_ne_nil (h : r.Sound) (hne : cs ≠ []) (hsteps : r.steps cs = some r')
    (hbetween : r'.position.isBetween) : r'.records ≠ [] := by
  have hsplit := (List.dropLast_concat_getLast hne).symm
  rw [hsplit, steps_append] at hsteps
  obtain ⟨q, hq, hlast⟩ := Option.bind_eq_some_iff.1 hsteps
  rw [steps_singleton] at hlast
  exact records_ne_nil_of_step (h.steps hq) hlast hbetween

/-! ## Between two records -/

/-- A reading with nothing read. -/
def fresh (p : Position) : Reading := ⟨p, [], 0, [], []⟩

/-- Between two records the records are all that is left of what was read. -/
theorem Sound.eq_fresh (h : r.Sound) (hbetween : r.position.isBetween) :
    r = (fresh r.position).behind r.records := by
  obtain ⟨p, cell, size, cells, records⟩ := r
  have hcell : cell = [] := h.cell (.inl hbetween)
  have hcells : cells = [] := h.cells hbetween
  have hsize : size = 0 := h.size.trans (by rw [hcell]; rfl)
  simp [fresh, behind, hcell, hcells, hsize]

/-- The records of what is read on from a reading between two records. -/
theorem finish_of_between (h : r.Sound) (hbetween : r.position.isBetween) (cs : List Char) :
    (r.steps cs).map finish =
      (((fresh r.position).steps cs).map finish).map (r.records.reverse ++ ·) := by
  calc (r.steps cs).map finish
      = (((fresh r.position).behind r.records).steps cs).map finish := by
        rw [← h.eq_fresh hbetween]
    _ = _ := by simp [steps_behind, Function.comp_def, finish_behind]

/-! ## Runs of characters -/

/-- More characters of the cell under way. -/
def grown (r : Reading) (cs : List Char) : Reading :=
  { r with cell := cs.reverse ++ r.cell, size := r.size + cs.length }

/-- Characters that each go on with the cell make it longer as long as there is room. -/
theorem steps_adding (hadds : ∀ c ∈ cs, ∀ r : Reading, r.position = p → r.step c = r.add? p c)
    (hpos : r.position = p) (hroom : r.size ≤ maxCell) :
    r.steps cs = if r.size + cs.length ≤ maxCell then some (r.grown cs) else none := by
  induction cs generalizing r with
  | nil => simp [steps, grown, hroom]
  | cons c cs ih =>
    rw [List.forall_mem_cons] at hadds
    rw [steps, hadds.1 r hpos, add?]
    by_cases hfull : maxCell ≤ r.size
    · rw [if_pos hfull, if_neg (by rw [List.length_cons]; omega)]
    · rw [if_neg hfull]
      refine (ih hadds.2 rfl (by dsimp only; omega)).trans ?_
      simp [grown, hpos, Nat.add_comm, Nat.add_left_comm]

/-- A character that ends no cell. -/
def isPlain (c : Char) : Bool := !isBreak c && c != ','

theorem outside_of_isPlain (hc : isPlain c) : r.outside c = r.add? .plain c := by
  rw [isPlain, Bool.and_eq_true, Bool.not_eq_true', bne_iff_ne] at hc
  simp [Reading.outside, hc.1, hc.2]

theorem steps_plain (hplain : ∀ c ∈ cs, isPlain c) (hpos : r.position = .plain)
    (hroom : r.size ≤ maxCell) :
    r.steps cs = if r.size + cs.length ≤ maxCell then some (r.grown cs) else none := by
  apply steps_adding _ hpos hroom
  intro c hc q hq
  rw [Reading.step, hq]
  exact outside_of_isPlain (hplain c hc)

theorem steps_quoted (hquote : ∀ c ∈ cs, c ≠ '"') (hpos : r.position = .quoted)
    (hroom : r.size ≤ maxCell) :
    r.steps cs = if r.size + cs.length ≤ maxCell then some (r.grown cs) else none := by
  apply steps_adding _ hpos hroom
  intro c hc q hq
  simp [Reading.step, hq, hquote c hc]

/-! ## Ends of lines -/

/-- The breaks that end a line. -/
inductive LineBreak : List Char → Prop
  | newline : LineBreak ['\n']
  | carriage : LineBreak ['\r']
  | both : LineBreak ['\r', '\n']

theorem step_break (hpos : r.position.isOpen) (hc : isBreak c) :
    r.step c = some ((r.endCell .cellStart).endRecord (afterBreak c)) := by
  have houtside : r.outside c = some ((r.endCell .cellStart).endRecord (afterBreak c)) := by
    simp [Reading.outside, hc]
  have hquote : (c == '"') = false := by
    rw [isBreak, Bool.or_eq_true, beq_iff_eq, beq_iff_eq] at hc
    rcases hc with rfl | rfl <;> rfl
  have hspace : (c == ' ') = false := by
    rw [isBreak, Bool.or_eq_true, beq_iff_eq, beq_iff_eq] at hc
    rcases hc with rfl | rfl <;> rfl
  cases h : r.position <;> simp_all [Reading.step, Reading.atCellStart, Position.isOpen]

/-- A break ends the cell under way and its record. -/
theorem steps_break (hpos : r.position.isOpen) {ending : List Char} (h : LineBreak ending) :
    ∃ p : Position, p.isBetween ∧
      r.steps ending = some ((r.endCell .cellStart).endRecord p) := by
  cases h with
  | newline => exact ⟨.recordStart, rfl, by rw [steps_singleton, step_break hpos rfl]; rfl⟩
  | carriage => exact ⟨.afterReturn, rfl, by rw [steps_singleton, step_break hpos rfl]; rfl⟩
  | both => exact ⟨.recordStart, rfl, by rw [steps, step_break hpos rfl]; rfl⟩

/-- A break at the start of a record is a record without cells. -/
theorem steps_break_of_recordStart {ending : List Char} (h : LineBreak ending) :
    ∃ p : Position, p.isBetween ∧
      (fresh .recordStart).steps ending = some ((fresh p).behind [[]]) := by
  cases h with
  | newline => exact ⟨.recordStart, rfl, rfl⟩
  | carriage => exact ⟨.afterReturn, rfl, rfl⟩
  | both => exact ⟨.recordStart, rfl, rfl⟩

end Reading

end ApiJourney.Csv
