-- SUMMARY: Rows that are written with all cells in quotes are read again.
import ApiJourney.Proofs.Profile.BlankLines

/-!
# Written rows

A table is written record by record, each on a line, with all cells in quotes and the quotes
inside of them twice. Inside of quotes the reader takes commas and line breaks as they are, and of
two quotes it makes one; so behind a line it has the record and stands where it started. The
bytes of the text are read by the same argument one level below: the bytes of a character are
read as that character, and what follows as if nothing stood before it.
-/

namespace ApiJourney.Text.Utf8

variable {b : UInt8} {rest : List UInt8}

/-! ## Bytes of texts -/

theorem toList_loop (bs : ByteArray) (i : Nat) (before : List UInt8) :
    ByteArray.toList.loop bs i before = before.reverse ++ bs.data.toList.drop i := by
  fun_induction ByteArray.toList.loop bs i before with
  | case1 i before hlt ih =>
    have hi : i < bs.data.toList.length := by simpa using hlt
    have hbyte : bs.get! i = bs.data.toList[i] := by simp [ByteArray.get!, hlt]
    rw [ih, List.reverse_cons, List.append_assoc, List.singleton_append, hbyte,
      List.getElem_cons_drop]
  | case2 i before hge =>
    rw [List.drop_eq_nil_of_le (by simpa using hge), List.append_nil]

/-- The bytes of a text are those of its characters. -/
theorem encode_ofList (cs : List Char) :
    encode (String.ofList cs) = cs.flatMap String.utf8EncodeChar := by
  rw [encode, String.toUTF8, String.toByteArray_ofList, List.utf8Encode, ByteArray.toList,
    toList_loop, List.toList_data_toByteArray, List.reverse_nil, List.nil_append, List.drop_zero]

/-- A byte that follows the first one of a character. -/
def IsMore (b : UInt8) : Prop := 0x80 ≤ b.toNat ∧ b.toNat ≤ 0xBF

/-- The code point with the bits of one more byte. -/
def joined (code : Nat) (b : UInt8) : Nat := code * 64 + b.toNat % 64

theorem follow_cons {code low high more : Nat} (hlow : low ≤ b.toNat) (hhigh : b.toNat ≤ high) :
    follow code low high (more + 1) (b :: rest) =
      ((follow (joined code b) 0x80 0xBF more rest).1,
        (follow (joined code b) 0x80 0xBF more rest).2 + 1) := by
  rw [follow, if_pos (by simp [hlow, hhigh]), joined]

theorem follow_append {more : List UInt8} (hmore : ∀ b ∈ more, IsMore b) (code : Nat) :
    follow code 0x80 0xBF more.length (more ++ rest) =
      (some (more.foldl joined code), more.length) := by
  induction more generalizing code with
  | nil => rw [follow.eq_def]; rfl
  | cons b more ih =>
    rw [List.forall_mem_cons] at hmore
    rw [List.length_cons, List.cons_append, follow_cons hmore.1.1 hmore.1.2, ih hmore.2,
      List.foldl_cons]

/-- A first byte with all bytes that have to follow it is a character. -/
theorem pieces_follow {second : UInt8} {more : List UInt8} {low high code : Nat}
    (hb : 0x80 ≤ b.toNat) (hshape : shape? b = some (more.length + 1, low, high))
    (hlow : low ≤ second.toNat) (hhigh : second.toNat ≤ high) (hmore : ∀ b ∈ more, IsMore b)
    (hcode : more.foldl joined (joined (leadBits (more.length + 1) b) second) = code) :
    pieces (b :: second :: more ++ rest) = .ok (Char.ofNat code) :: pieces rest := by
  have hfollow : follow (leadBits (more.length + 1) b) low high (more.length + 1)
      (second :: (more ++ rest)) = (some code, more.length + 1) := by
    rw [follow_cons hlow hhigh, follow_append hmore, hcode]
  rw [List.cons_append, List.cons_append, pieces, if_neg (Nat.not_lt.2 hb), hshape]
  dsimp only
  rw [hfollow]
  simp

theorem shape?_two (hlow : 0xC2 ≤ b.toNat) (hhigh : b.toNat ≤ 0xDF) :
    shape? b = some (1, 0x80, 0xBF) :=
  if_pos (by simp [hlow, hhigh])

theorem shape?_three (hlow : 0xE0 ≤ b.toNat) (hhigh : b.toNat ≤ 0xEF) :
    shape? b = some (2, if b.toNat = 0xE0 then 0xA0 else 0x80,
      if b.toNat = 0xED then 0x9F else 0xBF) := by
  unfold shape?
  generalize b.toNat = n at hlow hhigh ⊢
  interval_cases n <;> rfl

theorem shape?_four (hlow : 0xF0 ≤ b.toNat) (hhigh : b.toNat ≤ 0xF4) :
    shape? b = some (3, if b.toNat = 0xF0 then 0x90 else 0x80,
      if b.toNat = 0xF4 then 0x8F else 0xBF) := by
  unfold shape?
  generalize b.toNat = n at hlow hhigh ⊢
  interval_cases n <;> rfl

theorem leadBits_two : leadBits (0 + 1) b = b.toNat % 32 := rfl

theorem leadBits_three : leadBits (1 + 1) b = b.toNat % 16 := rfl

theorem leadBits_four : leadBits (0 + 1 + 1 + 1) b = b.toNat % 8 := rfl

/-- The bytes of a character are that character. -/
theorem pieces_utf8EncodeChar (c : Char) (rest : List UInt8) :
    pieces (String.utf8EncodeChar c ++ rest) = .ok c :: pieces rest := by
  have hvalid : c.val.toNat < 0xD800 ∨ 0xDFFF < c.val.toNat ∧ c.val.toNat < 0x110000 := c.valid
  have hchar : Char.ofNat c.val.toNat = c := Char.ofNat_toNat c
  have hbyte : ∀ n < 256, (UInt8.ofNat n).toNat = n := fun n hn => UInt8.toNat_ofNat_of_lt' hn
  rw [String.utf8EncodeChar]
  generalize c.val.toNat = v at hchar hvalid ⊢
  -- The last two bytes of every longer form are the low twelve bits, six by six.
  have hlast := hbyte (v % 64 + 128) (by omega)
  have hsixth := hbyte (v / 64 % 64 + 128) (by omega)
  have hmore : IsMore (UInt8.ofNat (v % 64 + 128)) ∧ IsMore (UInt8.ofNat (v / 64 % 64 + 128)) := by
    simp only [IsMore, hlast, hsixth]
    omega
  rw [← hchar]
  split_ifs with hone htwo hthree
  · -- one byte
    rw [List.singleton_append, pieces, hbyte v (by omega), if_pos (by omega)]
  · -- two bytes
    have hfirst := hbyte (v / 64 % 32 + 192) (by omega)
    refine pieces_follow (by omega) (shape?_two (by omega) (by omega)) hmore.1.1 hmore.1.2
      (List.forall_mem_nil _) ?_
    simp only [List.foldl_nil, joined, leadBits_two, hfirst, hlast, List.length_nil]
    omega
  · -- three bytes
    have hfirst := hbyte (v / 4096 % 16 + 224) (by omega)
    refine pieces_follow (by omega) (shape?_three (by omega) (by omega)) ?_ ?_
      (List.forall_mem_singleton.2 hmore.1) ?_
    · rw [hfirst, hsixth]
      split_ifs <;> omega
    · rw [hfirst, hsixth]
      split_ifs <;> omega
    · simp only [List.foldl_cons, List.foldl_nil, joined, leadBits_three, hfirst, hsixth, hlast,
        List.length_singleton]
      omega
  · -- four bytes
    have hfirst := hbyte (v / 262144 % 8 + 240) (by omega)
    have hsecond := hbyte (v / 4096 % 64 + 128) (by omega)
    refine pieces_follow (by omega) (shape?_four (by omega) (by omega)) ?_ ?_
      (List.forall_mem_cons.2 ⟨hmore.2, List.forall_mem_singleton.2 hmore.1⟩) ?_
    · rw [hfirst, hsecond]
      split_ifs <;> omega
    · rw [hfirst, hsecond]
      split_ifs <;> omega
    · simp only [List.foldl_cons, List.foldl_nil, joined, leadBits_four, hfirst, hsecond, hsixth,
        hlast, List.length_cons, List.length_nil]
      omega

theorem pieces_encode (cs : List Char) :
    pieces (cs.flatMap String.utf8EncodeChar) = cs.map .ok := by
  induction cs with
  | nil => rw [List.flatMap_nil, pieces, List.map_nil]
  | cons c cs ih => rw [List.flatMap_cons, pieces_utf8EncodeChar, ih, List.map_cons]

/-- A text that is written as bytes is read again. -/
theorem decode?_encode (cs : List Char) : decode? (encode (String.ofList cs)) = some cs := by
  rw [encode_ofList]
  exact decode?_of_pieces (pieces_encode cs)

end ApiJourney.Text.Utf8

namespace ApiJourney.Csv

/-! ## Written records -/

/-- The characters of a cell with each quote written twice. -/
def doubled (cell : List Char) : List Char :=
  cell.flatMap fun c => if c = '"' then ['"', '"'] else [c]

/-- A cell in quotes. -/
def quoted (cell : List Char) : List Char :=
  '"' :: doubled cell ++ ['"']

/-- A record on a line: all cells in quotes, with commas between them. -/
def line (record : List (List Char)) : List Char :=
  [','].intercalate (record.map quoted) ++ ['\r', '\n']

/-- Records line by line. -/
def written (records : List (List (List Char))) : List Char :=
  records.flatMap line

theorem intercalate_quoted (cell : List Char) (record : List (List Char)) :
    [','].intercalate ((cell :: record).map quoted) =
      quoted cell ++ record.flatMap fun next => ',' :: quoted next := by
  induction record generalizing cell with
  | nil => simp
  | cons next record ih =>
    rw [List.map_cons, List.map_cons, List.intercalate_cons_cons, ← List.map_cons, ih]
    simp

namespace Reading

variable {r r' : Reading} {c : Char} {cell : List Char} {record : List (List Char)}

theorem steps_of_step (h : r.step c = some r') (cs : List Char) :
    r.steps (c :: cs) = r'.steps cs := by
  rw [steps, h]

/-- Quotes that are written twice are read once. -/
theorem steps_doubled (hpos : r.position = .quoted) (hroom : r.size + cell.length ≤ maxCell) :
    r.steps (doubled cell) = some (r.grown cell) := by
  induction cell generalizing r with
  | nil => rfl
  | cons c cell ih =>
    rw [List.length_cons] at hroom
    have hadd : r.add? .quoted c = some (r.grown [c]) := by
      rw [add?, if_neg (by omega)]
      simp [grown, hpos]
    have hstep : r.steps (if c = '"' then ['"', '"'] else [c]) = some (r.grown [c]) := by
      split_ifs with hquote
      · subst hquote
        have hopen : r.step '"' = some { r with position := .afterQuote } := by simp [step, hpos]
        have hclose : step { r with position := .afterQuote } '"' = r.add? .quoted '"' := rfl
        rw [steps_of_step hopen, steps_singleton, hclose, hadd]
      · simp [steps_singleton, step, hpos, hquote, hadd]
    have hrest := ih (r := r.grown [c]) hpos (by simp only [grown, List.length_singleton]; omega)
    rw [doubled, List.flatMap_cons, steps_append, hstep, Option.bind_some]
    refine hrest.trans ?_
    simp [grown, Nat.add_comm, Nat.add_left_comm]

/-- Behind the closing quote of a cell, with the cells before it in the record. -/
def closed (cells : List (List Char)) (cell : List Char) : Reading :=
  ⟨.afterQuote, cell.reverse, cell.length, cells.reverse, []⟩

theorem steps_quotedCell (p : Position) (hp : p = .recordStart ∨ p = .cellStart)
    (cells : List (List Char)) (hfits : cell.length ≤ maxCell) :
    steps ⟨p, [], 0, cells.reverse, []⟩ (quoted cell) = some (closed cells cell) := by
  have hopen : step ⟨p, [], 0, cells.reverse, []⟩ '"' =
      some ⟨.quoted, [], 0, cells.reverse, []⟩ := by
    rcases hp with rfl | rfl <;> rfl
  have hcell : steps ⟨.quoted, [], 0, cells.reverse, []⟩ (doubled cell) = _ :=
    steps_doubled rfl (by simpa using hfits)
  rw [quoted, List.cons_append, steps_of_step hopen, steps_append, hcell, Option.bind_some,
    steps_singleton]
  simp [step, grown, closed]

/-- A comma ends a cell, and the next one is read. -/
theorem steps_nextCell (cells : List (List Char)) {next : List Char}
    (hfits : next.length ≤ maxCell) :
    (closed cells cell).steps (',' :: quoted next) = some (closed (cells ++ [cell]) next) := by
  have hcomma : (closed cells cell).step ',' =
      some ⟨.cellStart, [], 0, (cells ++ [cell]).reverse, []⟩ := by
    simp [closed, step, Reading.outside, isBreak, endCell]
  rw [steps_of_step hcomma]
  exact steps_quotedCell .cellStart (.inr rfl) _ hfits

/-- All cells of a record are read up to the closing quote of the last one. -/
theorem steps_nextCells (hfits : ∀ next ∈ record, next.length ≤ maxCell)
    (cells : List (List Char)) (cell : List Char) :
    ∃ before last, before ++ [last] = cells ++ cell :: record ∧
      (closed cells cell).steps (record.flatMap fun next => ',' :: quoted next) =
        some (closed before last) := by
  induction record generalizing cells cell with
  | nil => exact ⟨cells, cell, rfl, rfl⟩
  | cons next record ih =>
    rw [List.forall_mem_cons] at hfits
    obtain ⟨before, last, hall, hsteps⟩ := ih hfits.2 (cells ++ [cell]) next
    refine ⟨before, last, by rw [hall, List.append_assoc]; rfl, ?_⟩
    rw [List.flatMap_cons, steps_append, steps_nextCell cells hfits.1]
    exact hsteps

/-- A written record is read, and nothing else is left of it. -/
theorem steps_line (hne : record ≠ []) (hfits : ∀ cell ∈ record, cell.length ≤ maxCell) :
    (fresh .recordStart).steps (line record) = some ((fresh .recordStart).behind [record]) := by
  obtain ⟨cell, record, rfl⟩ := List.exists_cons_of_ne_nil hne
  rw [List.forall_mem_cons] at hfits
  obtain ⟨before, last, hall, hcells⟩ := steps_nextCells hfits.2 [] cell
  have hfirst : (fresh .recordStart).steps (quoted cell) = some (closed [] cell) :=
    steps_quotedCell .recordStart (.inl rfl) [] hfits.1
  have hreturn : (closed before last).step '\r' =
      some ⟨.afterReturn, [], 0, [], [before ++ [last]]⟩ := by
    simp [closed, step, Reading.outside, isBreak, endCell, endRecord, afterBreak]
  rw [line, intercalate_quoted, List.append_assoc, steps_append, hfirst, Option.bind_some,
    steps_append, hcells, Option.bind_some, steps_of_step hreturn, hall]
  rfl

theorem steps_written {records : List (List (List Char))}
    (h : ∀ record ∈ records, record ≠ [] ∧ ∀ cell ∈ record, cell.length ≤ maxCell) :
    (fresh .recordStart).steps (written records) =
      some ((fresh .recordStart).behind records.reverse) := by
  induction records with
  | nil => rfl
  | cons record records ih =>
    rw [List.forall_mem_cons] at h
    rw [written, List.flatMap_cons, steps_append, steps_line h.1.1 h.1.2, Option.bind_some,
      steps_behind]
    refine (congrArg _ (ih h.2)).trans ?_
    simp [behind]

end Reading

/-- Written records are read again. -/
theorem records?_written {records : List (List (List Char))}
    (h : ∀ record ∈ records, record ≠ [] ∧ ∀ cell ∈ record, cell.length ≤ maxCell) :
    records? (written records) = some records := by
  have hsteps : Reading.start.steps (written records) = _ := Reading.steps_written h
  rw [records?, hsteps, Option.map_some, Reading.finish_behind, List.reverse_reverse]
  exact congrArg some (List.append_nil records)

end ApiJourney.Csv

namespace ApiJourney.Rows

open ApiJourney.Text ApiJourney.Csv

/-! ## Rows of written records -/

/-- The cells of a record under the names of their columns, as they are. -/
def named (names record : List String) : Entries :=
  List.zipWith (fun name cell => (.text name, .text cell)) names record

/-- The characters of all cells. -/
def chars (record : List String) : List (List Char) :=
  record.map String.toList

/-- Cells that are trimmed already are filled in as they are, each under a name of its own. -/
theorem fill_eq_named {names record : List String} {row : Entries}
    (hlength : record.length = names.length)
    (htrim : ∀ cell ∈ record, trim cell.toList = cell.toList) (hnodup : names.Nodup)
    (hnew : ∀ name ∈ names, row.find? (.text name) = none) :
    fill row (chars names) (chars record) = row ++ named names record := by
  induction names generalizing row record with
  | nil =>
    rw [List.length_eq_zero_iff.1 hlength]
    exact (List.append_nil row).symm
  | cons name names ih =>
    obtain ⟨cell, record, rfl⟩ := List.exists_cons_of_length_eq_add_one hlength
    rw [List.forall_mem_cons] at htrim hnew
    rw [List.nodup_cons] at hnodup
    have hput : row.put name (.text cell) = row ++ [(.text name, .text cell)] :=
      Entries.insert_of_find?_eq_none hnew.1 _
    -- No name comes twice, so no cell replaces an earlier one.
    have hrest : ∀ other ∈ names, (row.put name (.text cell)).find? (.text other) = none := by
      intro other hother
      have hne : name ≠ other := by
        rintro rfl
        exact hnodup.1 hother
      rw [Entries.put, Entries.find?_insert, Value.sameKey_text, if_neg (by simpa using hne)]
      exact hnew.2 other hother
    have hfill : fill row (chars (name :: names)) (chars (cell :: record)) =
        fill (row.put name (.text cell)) (chars names) (chars record) := by
      rw [chars, chars, List.map_cons, List.map_cons, fill, htrim.1, String.ofList_toList,
        String.ofList_toList]
      rfl
    rw [hfill, ih (Nat.succ.inj hlength) htrim.2 hnodup.2 hrest, hput, List.append_assoc]
    rfl

theorem values_named {names record : List String} (hlength : record.length = names.length) :
    (named names record).map Prod.snd = record.map .text := by
  induction names generalizing record with
  | nil =>
    rw [List.length_eq_zero_iff.1 hlength]
    rfl
  | cons name names ih =>
    obtain ⟨cell, record, rfl⟩ := List.exists_cons_of_length_eq_add_one hlength
    exact congrArg _ (ih (Nat.succ.inj hlength))

/-- A row with a text in one of its cells is not left out. -/
theorem any_named {names record : List String} (hlength : record.length = names.length)
    (htext : ∃ cell ∈ record, cell ≠ "") :
    (named names record).any (fun e => e.2.truthy) = true := by
  obtain ⟨cell, hcell, hne⟩ := htext
  have hvalue : Value.text cell ∈ (named names record).map Prod.snd := by
    rw [values_named hlength]
    exact List.mem_map_of_mem hcell
  obtain ⟨e, he, hcell⟩ := List.mem_map.1 hvalue
  refine List.any_eq_true.2 ⟨e, he, ?_⟩
  rw [hcell, Value.truthy, Bool.not_eq_true', ← Bool.not_eq_true, String.isEmpty_iff]
  exact hne

/-! ## Tables -/

/-- A table of texts with names for its columns, each its own: no cell is too long or has blanks at
    its ends, and no row is empty in all its cells. -/
structure Table where
  names : List String
  rows : List (List String)
  names_ne_nil : names ≠ []
  names_nodup : names.Nodup
  widths : ∀ row ∈ rows, row.length = names.length
  fits : ∀ record ∈ names :: rows, ∀ cell ∈ record, cell.toList.length ≤ maxCell
  trimmed : ∀ record ∈ names :: rows, ∀ cell ∈ record, trim cell.toList = cell.toList
  filled : ∀ row ∈ rows, ∃ cell ∈ row, cell ≠ ""

namespace Table

/-- The names and the rows of a table, as they are written. -/
def text (t : Table) : List Char :=
  written ((t.names :: t.rows).map chars)

/-- Each row of a table with its cells under their names. -/
def entries (t : Table) : List Entries :=
  t.rows.map (named t.names)

theorem record_ne_nil (t : Table) : ∀ record ∈ t.names :: t.rows, record ≠ [] := by
  rw [List.forall_mem_cons]
  refine ⟨t.names_ne_nil, fun row hrow hnil => ?_⟩
  have hwidth := t.widths row hrow
  rw [hnil] at hwidth
  exact t.names_ne_nil (List.length_eq_zero_iff.1 hwidth.symm)

/-- The records of a table are read as they were written. -/
theorem records?_text (t : Table) : records? t.text = some ((t.names :: t.rows).map chars) := by
  refine records?_written fun record hrecord => ?_
  obtain ⟨cells, hcells, rfl⟩ := List.mem_map.1 hrecord
  refine ⟨mt List.map_eq_nil_iff.1 (t.record_ne_nil cells hcells), fun cell hcell => ?_⟩
  obtain ⟨s, hs, rfl⟩ := List.mem_map.1 hcell
  exact t.fits cells hcells s hs

theorem ofAll_chars (t : Table) : ofAll ((t.names :: t.rows).map chars) = t.entries := by
  have hall := List.forall_mem_cons.1 t.trimmed
  have hnames : (chars t.names).map trim = chars t.names := by
    rw [chars, List.map_map]
    exact List.map_congr_left hall.1
  have hcells : (t.rows.map chars).filter (fun record => !record.isEmpty) = t.rows.map chars := by
    rw [List.filter_eq_self]
    intro record hrecord
    obtain ⟨row, hrow, rfl⟩ := List.mem_map.1 hrecord
    have hne := t.record_ne_nil row (List.mem_cons_of_mem _ hrow)
    simpa [chars] using hne
  have hrows : (t.rows.map chars).map (fill [] (chars t.names)) = t.entries := by
    rw [List.map_map]
    refine List.map_congr_left fun row hrow => ?_
    exact fill_eq_named (t.widths row hrow) (hall.2 row hrow) t.names_nodup fun _ _ => rfl
  have hkept : t.entries.filter (fun row => row.any fun e => e.2.truthy) = t.entries := by
    rw [List.filter_eq_self]
    intro row hrow
    obtain ⟨record, hrecord, rfl⟩ := List.mem_map.1 hrow
    exact any_named (t.widths record hrecord) (t.filled record hrecord)
  rw [List.map_cons, ofAll, hnames, ofRecords, hcells, hrows]
  exact hkept

/-- What is written starts with a quote, and so with no byte order mark. -/
theorem text_front (t : Table) : ∃ rest, t.text = '"' :: rest := by
  obtain ⟨name, names, hnames⟩ := List.exists_cons_of_ne_nil t.names_ne_nil
  rw [text, hnames, List.map_cons, written, List.flatMap_cons, line, chars, List.map_cons,
    intercalate_quoted]
  exact ⟨_, rfl⟩

/-- A table that is written as bytes is read again, row by row. -/
theorem ofCsv?_encode (t : Table) :
    ofCsv? (Utf8.encode (String.ofList t.text)) = some t.entries := by
  obtain ⟨rest, hfront⟩ := t.text_front
  have hmark : withoutMark t.text = t.text := by
    rw [hfront, withoutMark, if_neg (by decide)]
  have htext : text? (Utf8.encode (String.ofList t.text)) = some t.text := by
    rw [text?, Utf8.decode?_encode, Option.map_some, hmark]
  rw [ofCsv?_eq htext, ofText?, t.records?_text, Option.map_some, t.ofAll_chars]

end Table

/-- Cells with a comma, quotes and a line break, and one without text. -/
def orders : Table where
  names := ["id", "note"]
  rows := [["1", "red, \"matte\""], ["", "two\r\nlines"]]
  names_ne_nil := by decide
  names_nodup := by decide
  widths := by decide
  fits := by decide
  trimmed := by decide
  filled := by decide

theorem orders_read :
    ofCsv? (Utf8.encode
        "\"id\",\"note\"\r\n\"1\",\"red, \"\"matte\"\"\"\r\n\"\",\"two\r\nlines\"\r\n") =
      some [[(.text "id", .text "1"), (.text "note", .text "red, \"matte\"")],
        [(.text "id", .text ""), (.text "note", .text "two\r\nlines")]] :=
  orders.ofCsv?_encode

end ApiJourney.Rows
