-- SUMMARY: Blank lines in the sources of data rows.
import ApiJourney.Profile.Rows
import ApiJourney.Proofs.Csv.BlankLines
import ApiJourney.Proofs.Value.Latest

/-!
# Blank lines in sources of data rows

Records without text give no rows. So blank lines may stand between the records of a source and
behind them, as long as the reader has room for them. In front of the names of the columns they
may not: the first line holds the names, whatever is on it.
-/

namespace ApiJourney.Rows

open ApiJourney.Text ApiJourney.Csv ApiJourney.Csv.Reading

variable {names record : List (List Char)} {records records' : List (List (List Char))}
  {row : Entries} {cs before after : List Char} {lines : List BlankLine}

/-! ## Rows of records -/

theorem ofRecords_append (names : List (List Char)) (records records' : List (List (List Char))) :
    ofRecords names (records ++ records') =
      ofRecords names records ++ ofRecords names records' := by
  simp [ofRecords]

theorem fill_trim (row : Entries) (names cells : List (List Char)) :
    fill row names (cells.map trim) = fill row names cells := by
  induction names generalizing row cells with
  | nil => rfl
  | cons name names ih =>
    cases cells with
    | nil => rfl
    | cons cell cells =>
      rw [List.map_cons, fill, fill, trim_trim]
      exact ih _ _

/-- The cells are trimmed, so that blanks around them do not count. -/
theorem ofRecords_trim (names : List (List Char)) (records : List (List (List Char))) :
    ofRecords names (records.map (·.map trim)) = ofRecords names records := by
  have hempty : ∀ record : List (List Char), (record.map trim).isEmpty = record.isEmpty := by
    intro record
    cases record <;> rfl
  simp only [ofRecords, List.filter_map, List.map_map, Function.comp_def, hempty, fill_trim]

/-- A record without text fills its row with empty texts. -/
theorem fill_of_not_hasText (htext : hasText record = false)
    (hrow : ∀ e ∈ row, e.2.truthy = false) : ∀ e ∈ fill row names record, e.2.truthy = false := by
  induction names generalizing row record with
  | nil => exact hrow
  | cons name names ih =>
    have hempty : (Value.text "").truthy = false := rfl
    cases record with
    | nil => exact ih htext (Entries.value_insert (P := (·.truthy = false)) hrow _ hempty)
    | cons cell record =>
      have hcell : trim cell = [] ∧ hasText record = false := by
        simpa [hasText] using htext
      rw [fill, hcell.1]
      exact ih hcell.2 (Entries.value_insert (P := (·.truthy = false)) hrow _ hempty)

theorem ofRecords_singleton (htext : hasText record = false) : ofRecords names [record] = [] := by
  have hrow : (fill [] names record).any (fun e => e.2.truthy) = false := by
    rw [List.any_eq_false]
    intro e he
    simp [fill_of_not_hasText htext (List.forall_mem_nil _) e he]
  cases record with
  | nil => rfl
  | cons cell record =>
    have hdropped : [fill [] names (cell :: record)].filter
        (fun row => row.any fun e => e.2.truthy) = [] := by
      rw [List.filter_singleton, hrow, cond_false]
    exact hdropped

/-- Only records with text give rows. -/
theorem ofRecords_filter (names : List (List Char)) (records : List (List (List Char))) :
    ofRecords names (records.filter hasText) = ofRecords names records := by
  induction records with
  | nil => rfl
  | cons record records ih =>
    rw [← List.singleton_append, List.filter_append, ofRecords_append, ofRecords_append, ih]
    cases htext : hasText record with
    | true => rw [List.filter_singleton, htext, cond_true]
    | false => rw [List.filter_singleton, htext, cond_false, ofRecords_singleton htext]; rfl

/-- Without names of columns there are no rows. -/
theorem ofRecords_nil (records : List (List (List Char))) : ofRecords [] records = [] := by
  simp [ofRecords, fill]

/-! ## Rows of texts -/

/-- The text of a source, without its byte order mark. -/
def text? (bytes : List UInt8) : Option (List Char) :=
  (Utf8.decode? bytes).map withoutMark

/-- The rows of all records, of which the first one has the names. -/
def ofAll : List (List (List Char)) → List Entries
  | [] => []
  | names :: records => ofRecords (names.map trim) records

/-- The rows of a text. -/
def ofText? (cs : List Char) : Option (List Entries) :=
  (records? cs).map ofAll

theorem ofCsv?_eq {bytes : List UInt8} (htext : text? bytes = some cs) :
    ofCsv? bytes = ofText? cs := by
  obtain ⟨ds, hdecode, rfl⟩ := Option.map_eq_some_iff.1 htext
  rw [ofCsv?, hdecode, ofText?]
  cases hrecords : records? (withoutMark ds) with
  | none => simp [hrecords]
  | some records => cases records <;> simp [hrecords, ofAll]

theorem text?_ascii (h : ∀ c ∈ cs, c.toNat < 0x80) : text? (Utf8.ascii cs) = some cs := by
  have hmark : withoutMark cs = cs := by
    cases cs with
    | nil => rfl
    | cons c cs =>
      have hc := h c List.mem_cons_self
      rw [withoutMark, if_neg (by omega)]
  rw [text?, Utf8.decode?_ascii h, Option.map_some, hmark]

/-- Behind the names only records with text count. -/
theorem ofAll_filter (hne : records ≠ []) (more : List (List (List Char))) :
    ofAll (records ++ more.filter hasText) = ofAll (records ++ more) := by
  obtain ⟨names, records, rfl⟩ := List.exists_cons_of_ne_nil hne
  rw [List.cons_append, List.cons_append, ofAll, ofAll, ofRecords_append, ofRecords_append,
    ofRecords_filter]

/-- Blanks around the cells do not count, nor around the names. -/
theorem ofAll_trim (h : records.map (·.map trim) = records'.map (·.map trim)) :
    ofAll records = ofAll records' := by
  have htrim : ∀ records : List (List (List Char)),
      ofAll (records.map (·.map trim)) = ofAll records := by
    intro records
    cases records with
    | nil => rfl
    | cons names records =>
      rw [List.map_cons, ofAll, ofAll, ofRecords_trim, List.map_map]
      simp only [Function.comp_def, trim_trim]
  rw [← htrim records, h, htrim]

/-! ## Blank lines -/

/-- A text that ends between two records. -/
def EndsClosed (cs : List Char) : Prop :=
  ∃ r, start.steps cs = some r ∧ r.position.isBetween = true

/-- A text that ends in a record that is not closed. -/
def EndsOpen (cs : List Char) : Prop :=
  ∃ r, start.steps cs = some r ∧ r.position.isOpen = true

/-- A text that ends in a quoted cell that is not closed, with so many characters. -/
def EndsQuoted (cs : List Char) (size : Nat) : Prop :=
  ∃ r, start.steps cs = some r ∧ r.position = .quoted ∧ r.size = size

/-- What is read on behind the names. -/
theorem ofText?_append {r : Csv.Reading} (hsteps : start.steps before = some r)
    (hbetween : r.position.isBetween) (hne : r.records ≠ []) (cs : List Char) :
    ofText? (before ++ cs) =
      (filled? r.position cs).map fun more => ofAll (r.records.reverse ++ more) := by
  have hrecords : r.records.reverse ≠ [] := List.reverse_ne_nil_iff.2 hne
  rw [ofText?, records?, steps_append, hsteps, Option.bind_some,
    finish_of_between (sound_start.steps hsteps) hbetween, filled?]
  simp [Function.comp_def, ofAll_filter hrecords]

/-- Blank lines behind a record. -/
theorem ofText?_between (hclosed : EndsClosed before) (hne : before ≠ [])
    (lines : List BlankLine) (after : List Char) :
    ofText? (before ++ lines.flatMap BlankLine.written ++ after) =
      if ∀ line ∈ lines, line.Fits then ofText? (before ++ after) else none := by
  obtain ⟨r, hsteps, hbetween⟩ := hclosed
  have hrecords := records_ne_nil sound_start hne hsteps hbetween
  rw [List.append_assoc, ofText?_append hsteps hbetween hrecords,
    ofText?_append hsteps hbetween hrecords, filled?_blankLines hbetween]
  split_ifs <;> rfl

/-- A break behind a record that is not closed. -/
theorem ofText?_closing {ending : List Char} (hopen : EndsOpen cs) (hending : LineBreak ending) :
    EndsClosed (cs ++ ending) ∧ ofText? (cs ++ ending) = ofText? cs := by
  obtain ⟨r, hsteps, hpos⟩ := hopen
  obtain ⟨p, hp, hbreak⟩ := steps_break hpos hending
  have hall : start.steps (cs ++ ending) = some ((r.endCell .cellStart).endRecord p) := by
    rw [steps_append, hsteps, Option.bind_some, hbreak]
  refine ⟨⟨_, hall, hp⟩, ?_⟩
  have hfinish : ((r.endCell .cellStart).endRecord p).finish = r.finish := by
    cases p <;> cases hp <;> cases h : r.position <;> simp_all [finish, endCell, endRecord,
      Position.isOpen]
  rw [ofText?, ofText?, records?, records?, hall, hsteps, Option.map_some, Option.map_some, hfinish,
    Option.map_some, Option.map_some]

/-- Blank lines behind the last record; the last of them needs no break. -/
theorem ofText?_behind (hclosed : EndsClosed before) (hne : before ≠ []) (lines : List BlankLine)
    (last : BlankLine) :
    ofText? (before ++ lines.flatMap BlankLine.written ++ last.blanks) =
      if ∀ line ∈ last :: lines, line.Fits then ofText? before else none := by
  have hlines := ofText?_between hclosed hne lines last.blanks
  obtain ⟨r, hsteps, hbetween⟩ := hclosed
  have hrecords := records_ne_nil sound_start hne hsteps hbetween
  have hbefore : ofText? before = some (ofAll (r.records.reverse ++ [])) := by
    have hnothing : filled? r.position [] = some [] := filled?_eq hbetween (q := .recordStart) rfl
    have hall := ofText?_append hsteps hbetween hrecords []
    rwa [List.append_nil, hnothing] at hall
  have hlast : ofText? (before ++ last.blanks) = if last.Fits then ofText? before else none := by
    rw [ofText?_append hsteps hbetween hrecords, filled?_blanks hbetween, hbefore]
    split_ifs <;> rfl
  rw [hlines, hlast]
  simp only [List.forall_mem_cons]
  by_cases hfits : last.Fits <;> simp [hfits]

/-- What closes the last record of a text: nothing if it is closed, or else a break. -/
inductive Closes (cs : List Char) : List Char → Prop where
  | closed : EndsClosed cs → cs ≠ [] → Closes cs []
  | broken {ending : List Char} : EndsOpen cs → LineBreak ending → Closes cs ending

/-- What is read ends in a record, behind it or in a quoted cell of it. -/
theorem ends_of_read {rows : List Entries} (hread : ofText? cs = some rows) (hne : cs ≠ []) :
    (∃ ending, Closes cs ending) ∨ ∃ size, EndsQuoted cs size := by
  obtain ⟨records, hrecords, -⟩ := Option.map_eq_some_iff.1 hread
  obtain ⟨r, hsteps, -⟩ := Option.map_eq_some_iff.1 hrecords
  have hclosed : r.position.isBetween = true → ∃ ending, Closes cs ending :=
    fun h => ⟨[], .closed ⟨r, hsteps, h⟩ hne⟩
  have hopen : r.position.isOpen = true → ∃ ending, Closes cs ending :=
    fun h => ⟨['\n'], .broken ⟨r, hsteps, h⟩ .newline⟩
  cases hpos : r.position with
  | recordStart => exact .inl (hclosed (by rw [hpos]; rfl))
  | afterReturn => exact .inl (hclosed (by rw [hpos]; rfl))
  | cellStart => exact .inl (hopen (by rw [hpos]; rfl))
  | plain => exact .inl (hopen (by rw [hpos]; rfl))
  | quoted => exact .inr ⟨r.size, r, hsteps, hpos, rfl⟩
  | afterQuote => exact .inl (hopen (by rw [hpos]; rfl))

theorem Closes.ofText?_eq {ending : List Char} (h : Closes cs ending) (lines : List BlankLine)
    (last : BlankLine) :
    ofText? (cs ++ ending ++ lines.flatMap BlankLine.written ++ last.blanks) =
      if ∀ line ∈ last :: lines, line.Fits then ofText? cs else none := by
  cases h with
  | closed hclosed hne =>
    rw [List.append_nil]
    exact ofText?_behind hclosed hne lines last
  | broken hopen hending =>
    obtain ⟨hclosed, hsame⟩ := ofText?_closing hopen hending
    have hne : cs ++ ending ≠ [] := by
      cases hending <;> simp
    rw [ofText?_behind hclosed hne, hsame]

/-- Blanks behind a quoted cell that is not closed are a part of it. -/
theorem ofText?_quoted {size : Nat} (hquoted : EndsQuoted cs size) {blanks : List Char}
    (hblanks : ∀ c ∈ blanks, isBlank c = true) :
    ofText? (cs ++ blanks) = if size + blanks.length ≤ maxCell then ofText? cs else none := by
  obtain ⟨r, hsteps, hpos, rfl⟩ := hquoted
  have hroom := (sound_start.steps hsteps).room
  have hquote : ∀ c ∈ blanks, c ≠ '"' := by
    rintro c hc rfl
    exact absurd (hblanks _ hc) (by decide)
  have htrim := trim_append_blanks hblanks r.cell.reverse
  rw [ofText?, records?, steps_append, hsteps, Option.bind_some, steps_quoted hquote hpos hroom]
  split_ifs with hfits
  · rw [ofText?, records?, hsteps, Option.map_some, Option.map_some, Option.map_some,
      Option.map_some]
    congr 1
    apply ofAll_trim
    simp [finish, grown, hpos, endCell, endRecord, htrim]
  · rfl

/-- In front of the names a blank line takes their place. -/
theorem ofText?_front {line : BlankLine} :
    ofText? ((line :: lines).flatMap BlankLine.written ++ cs) =
      if ∀ l ∈ line :: lines, l.Fits then
        (records? cs).map fun records => if line.blanks = [] then [] else ofRecords [[]] records
      else none := by
  by_cases hfits : line.Fits
  · obtain ⟨p, hp, hsteps⟩ := steps_blankLine hfits
    have hnames : line.record.map trim = if line.blanks = [] then [] else [[]] := by
      rw [BlankLine.record]
      split_ifs
      · rfl
      · rw [List.map_singleton, BlankLine.trim_cell]
    -- The first line gives the names, even where it is blank: then the only name is empty.
    have hall : ∀ more, ofAll ([line.record] ++ more.filter hasText) =
        if line.blanks = [] then [] else ofRecords [[]] more := by
      intro more
      rw [ofAll_filter (List.cons_ne_nil _ _), List.singleton_append, ofAll, hnames]
      split_ifs
      · exact ofRecords_nil more
      · rfl
    have hfilled : filled? p cs = (records? cs).map (·.filter hasText) := by
      rw [filled?_eq hp (q := .recordStart) rfl, filled?, records?, Option.map_map]
      rfl
    rw [List.flatMap_cons, List.append_assoc]
    rw [ofText?_append hsteps hp (List.cons_ne_nil _ _)]
    refine (congrArg _ (filled?_blankLines hp)).trans ?_
    simp only [List.forall_mem_cons, hfits, true_and, hfilled]
    by_cases hmore : ∀ l ∈ lines, l.Fits
    · rw [if_pos hmore, if_pos hmore, Option.map_map]
      exact congrArg (Option.map · _) (funext hall)
    · rw [if_neg hmore, if_neg hmore, Option.map_none]
  · have hnone : ofText? ((line :: lines).flatMap BlankLine.written ++ cs) = none := by
      rw [List.flatMap_cons, List.append_assoc, ofText?, records?, steps_append]
      rw [show start.steps line.written = none from steps_blankLine_of_not_fits hfits]
      rfl
    rw [hnone, if_neg (by simp [hfits])]

/-- What blank lines do to the rows of a source. Between two records and behind the last one, where
    the last of them needs no break, they change nothing, unless the reader has no room for one of
    them, or for all of them together in a quoted cell that is not closed. In front of the names
    the first of them is taken for the names: an empty line leaves no rows, and with other blanks
    on it each record is a row of its first cell. -/
theorem ofCsv?_blankLines {bytes : List UInt8} {rows : List Entries}
    (hread : ofCsv? bytes = some rows) (htext : text? bytes = some cs) :
    (∀ before after (lines : List BlankLine) bytes', cs = before ++ after → before ≠ [] →
      EndsClosed before →
      text? bytes' = some (before ++ lines.flatMap BlankLine.written ++ after) →
      ofCsv? bytes' = if ∀ line ∈ lines, line.Fits then some rows else none) ∧
    (cs ≠ [] → (∃ ending, Closes cs ending) ∨ ∃ size, EndsQuoted cs size) ∧
    (∀ ending (lines : List BlankLine) (last : BlankLine) bytes', Closes cs ending →
      text? bytes' = some (cs ++ ending ++ lines.flatMap BlankLine.written ++ last.blanks) →
      ofCsv? bytes' = if ∀ line ∈ last :: lines, line.Fits then some rows else none) ∧
    (∀ size blanks bytes', EndsQuoted cs size → (∀ c ∈ blanks, isBlank c = true) →
      text? bytes' = some (cs ++ blanks) →
      ofCsv? bytes' = if size + blanks.length ≤ maxCell then some rows else none) ∧
    (∃ records, records? cs = some records ∧
      ∀ (line : BlankLine) (lines : List BlankLine) bytes',
        text? bytes' = some ((line :: lines).flatMap BlankLine.written ++ cs) →
        ofCsv? bytes' =
          if ∀ l ∈ line :: lines, l.Fits then
            some (if line.blanks = [] then [] else ofRecords [[]] records)
          else none) := by
  rw [ofCsv?_eq htext] at hread
  refine ⟨?_, ends_of_read hread, ?_, ?_, ?_⟩
  · rintro before after lines bytes' rfl hne hclosed htext'
    rw [ofCsv?_eq htext', ofText?_between hclosed hne, hread]
  · intro ending lines last bytes' hcloses htext'
    rw [ofCsv?_eq htext', hcloses.ofText?_eq, hread]
  · intro size blanks bytes' hquoted hblanks htext'
    rw [ofCsv?_eq htext', ofText?_quoted hquoted hblanks, hread]
  · obtain ⟨records, hrecords, -⟩ := Option.map_eq_some_iff.1 hread
    refine ⟨records, hrecords, ?_⟩
    intro line lines bytes' htext'
    rw [ofCsv?_eq htext', ofText?_front, hrecords, Option.map_some]

/-- A line with a space and a tab on it. -/
def spacedLine : BlankLine := ⟨[' ', '\t'], ['\n'], by simp [isBlank, isBreak], .newline⟩

def emptyLine : BlankLine := ⟨[], ['\n'], nofun, .newline⟩

theorem twoNames_blankLines :
    let cs := "name\nalice\nbob\n".toList
    let rows := [[(Value.text "name", Value.text "alice")], [(.text "name", .text "bob")]]
    ofCsv? (Utf8.ascii cs) = some rows ∧ text? (Utf8.ascii cs) = some cs ∧
      ofCsv? (Utf8.ascii "name\nalice\n \t\n\nbob\n".toList) = some rows ∧
      ofCsv? (Utf8.ascii "\nname\nalice\nbob\n".toList) = some [] := by
  intro cs rows
  have htext : text? (Utf8.ascii cs) = some cs := text?_ascii (by simp [cs])
  have hread : ofCsv? (Utf8.ascii cs) = some rows := by
    rw [ofCsv?_eq htext]
    rfl
  have hall := ofCsv?_blankLines hread htext
  have hbetween := hall.1 "name\nalice\n".toList "bob\n".toList [spacedLine, emptyLine]
    (Utf8.ascii "name\nalice\n \t\n\nbob\n".toList) rfl (by decide) ⟨_, rfl, rfl⟩
    (text?_ascii (by simp))
  obtain ⟨records, -, hfront⟩ := hall.2.2.2.2
  have hempty := hfront emptyLine [] (Utf8.ascii "\nname\nalice\nbob\n".toList)
    (text?_ascii (by simp))
  rw [if_pos (by decide)] at hbetween hempty
  exact ⟨hread, htext, hbetween, hempty⟩

/-- A line in front of the names may change the rows. -/
theorem blankLines_not_harmless : ¬ ∀ (bytes bytes' : List UInt8) (cs : List Char)
    (lines : List BlankLine) (rows : List Entries), ofCsv? bytes = some rows →
      text? bytes = some cs → text? bytes' = some (lines.flatMap BlankLine.written ++ cs) →
      ofCsv? bytes' = some rows := by
  intro h
  have htext : text? (Utf8.ascii "name\nalice\n".toList) = some _ := text?_ascii (by simp)
  have hfront : text? (Utf8.ascii "\nname\nalice\n".toList) = some _ := text?_ascii (by simp)
  have hread : ofCsv? (Utf8.ascii "name\nalice\n".toList) =
      some [[(.text "name", .text "alice")]] := by
    rw [ofCsv?_eq htext]
    rfl
  have hrows := h _ _ _ [emptyLine] _ hread htext hfront
  rw [ofCsv?_eq hfront] at hrows
  cases hrows

end ApiJourney.Rows
