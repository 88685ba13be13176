-- SUMMARY: Queries written in brackets, and that reading such a text gives the query back.
import ApiJourney.Json.Printer
import ApiJourney.Proofs.Keys
import ApiJourney.Proofs.Number.Written
import ApiJourney.Proofs.Query.Pieces
import ApiJourney.Proofs.Query.Scanner

/-!
# Queries in brackets

A query without filters can be written as a root with one pair of brackets for each selector, and
two points in front of those that descend. Names stand between quotes that they do not hold, so
that whatever else is in them takes no part in the brackets, commas and colons around them. Such a
text is read as the query that it was written for.
-/

namespace ApiJourney.Query

open Text Numeral

/-! ## Texts -/

/-- A name between two quotes. -/
def quotedBy (quote : Char) (name : List Char) : List Char :=
  quote :: (name ++ [quote])

/-- How a member is written: a name between quotes that it does not hold, a position in digits. -/
inductive MemberText : Member → List Char → Prop where
  | name {k : String} {quote : Char} :
      isQuote quote = true → quote ∉ k.toList → MemberText (.name k) (quotedBy quote k.toList)
  | index {n : Int} :
      Short n → MemberText (.index n) (toString n).toList

/-- How a bound of a slice is written; there is nothing of one that is left open. -/
def boundText (bound : Option Int) : List Char :=
  bound.elim [] fun n => (toString n).toList

def ShortBound (bound : Option Int) : Prop :=
  ∀ n ∈ bound, Short n

/-- What is written between the brackets of a selector. The step of a slice may be left out
    together with the colon in front of it. -/
inductive BracketText : Selector → List Char → Prop where
  | members {ms : List Member} {ts : List (List Char)} :
      ms ≠ [] → List.Forall₂ MemberText ms ts → BracketText (.members ms) (Json.joined [','] ts)
  | wildcard :
      BracketText .wildcard ['*']
  | slice {start stop step : Option Int} :
      ShortBound start → ShortBound stop → ShortBound step → step ≠ some 0 →
      BracketText (.slice start stop step)
        (boundText start ++ ':' :: (boundText stop ++ ':' :: boundText step))
  | openSlice {start stop : Option Int} :
      ShortBound start → ShortBound stop →
      BracketText (.slice start stop none) (boundText start ++ ':' :: boundText stop)

/-- How a selector is written, with two points in front if it descends. -/
inductive SelectorText : Selector → List Char → Prop where
  | bracket {s : Selector} {t : List Char} :
      BracketText s t → SelectorText s ('[' :: (t ++ [']']))
  | descent {s : Selector} {t : List Char} :
      BracketText s t → SelectorText (.descend s) ('.' :: '.' :: '[' :: (t ++ [']']))

/-- How a query is written in brackets. -/
def Written (q : Query) (text : String) : Prop :=
  ∃ ts, List.Forall₂ SelectorText q ts ∧ text.toList = '$' :: ts.flatten

/-! ## What can be written -/

/-- A member that can be written: a name without one of the quotes, a position of not too many
    digits. -/
def WritableMember : Member → Prop
  | .name k => '\'' ∉ k.toList ∨ '"' ∉ k.toList
  | .index n => Short n

/-- A selector that can be written between brackets. -/
def WritableBracket : Selector → Prop
  | .members ms => ms ≠ [] ∧ ∀ m ∈ ms, WritableMember m
  | .wildcard => True
  | .slice start stop step => ShortBound start ∧ ShortBound stop ∧ ShortBound step ∧ step ≠ some 0
  | _ => False

/-- A selector that can be written, also one that descends to such a selector. -/
def WritableSelector : Selector → Prop
  | .descend s => WritableBracket s
  | s => WritableBracket s

theorem exists_memberText {m : Member} (h : WritableMember m) : ∃ t, MemberText m t := by
  cases m with
  | name k =>
    rcases h with h | h
    · exact ⟨_, .name rfl h⟩
    · exact ⟨_, .name rfl h⟩
  | index n => exact ⟨_, .index h⟩

theorem exists_bracketText {s : Selector} (h : WritableBracket s) : ∃ t, BracketText s t := by
  cases s with
  | members ms =>
    obtain ⟨ts, hts⟩ := exists_forall₂.2 fun m hm => exists_memberText (h.2 m hm)
    exact ⟨_, .members h.1 hts⟩
  | wildcard => exact ⟨_, .wildcard⟩
  | slice start stop step =>
    obtain ⟨hstart, hstop, hstep, hzero⟩ := h
    exact ⟨_, .slice hstart hstop hstep hzero⟩
  | filter relative test => exact h.elim
  | descend s => exact h.elim

theorem exists_selectorText {s : Selector} (h : WritableSelector s) : ∃ t, SelectorText s t := by
  unfold WritableSelector at h
  split at h
  · obtain ⟨t, ht⟩ := exists_bracketText h
    exact ⟨_, .descent ht⟩
  · obtain ⟨t, ht⟩ := exists_bracketText h
    exact ⟨_, .bracket ht⟩

theorem exists_written {q : Query} (h : ∀ s ∈ q, WritableSelector s) : ∃ text, Written q text := by
  obtain ⟨ts, hts⟩ := exists_forall₂.2 fun s hs => exists_selectorText (h s hs)
  exact ⟨String.ofList ('$' :: ts.flatten), ts, hts, String.toList_ofList⟩

/-! ## Scanning -/

/-- Characters of positions and bounds, which no scanner stops at. -/
def plainChars : List Char :=
  ['-', ':', '0', '1', '2', '3', '4', '5', '6', '7', '8', '9']

theorem mem_plainChars {n : Int} {c : Char} (hc : c ∈ (toString n).toList) : c ∈ plainChars := by
  have hdigit : ∀ d < 10, Char.ofNat (48 + d) ∈ plainChars := by decide
  rcases mem_toString hc with rfl | hc
  · decide
  · have hrange := isAsciiDigit_iff.1 hc
    have hmem := hdigit (c.toNat - 48) (by omega)
    rwa [Nat.add_sub_cancel' hrange.1, Char.ofNat_toNat] at hmem

/-- A piece between commas: plain characters, or a quoted name. -/
inductive Piece : List Char → Prop where
  | plain {cs : List Char} : (∀ c ∈ cs, c ∈ plainChars) → Piece cs
  | quoted {quote : Char} {name : List Char} :
      isQuote quote = true → quote ∉ name → Piece (quotedBy quote name)

theorem MemberText.piece {m : Member} {t : List Char} (h : MemberText m t) : Piece t := by
  cases h with
  | name hquote hfree => exact .quoted hquote hfree
  | index _ => exact .plain fun c hc => mem_plainChars hc

theorem moves_of_mem_plainChars : ∀ c ∈ plainChars, Place.moves c = false := by
  simp [plainChars, Place.moves, isQuote]

/-- The scanner for the closing bracket passes over a piece. -/
theorem Piece.passed {t : List Char} (h : Piece t) (depth : Nat) :
    t.foldlM Place.pass (.outside depth) = some (.outside depth) := by
  cases h with
  | plain hplain =>
    exact Place.foldlM_of_not_moves (fun c hc => moves_of_mem_plainChars c (hplain c hc)) _
  | @quoted quote name hquote hfree =>
    exact Place.foldlM_quoted hquote depth (Place.foldlM_inside hquote depth hfree)

/-- It passes over pieces with commas between them. -/
theorem passed_joined {ts : List (List Char)} (h : ∀ t ∈ ts, Piece t) (depth : Nat) :
    (Json.joined [','] ts).foldlM Place.pass (.outside depth) = some (.outside depth) := by
  induction ts with
  | nil => rfl
  | cons t ts ih =>
    rw [List.forall_mem_cons] at h
    cases ts with
    | nil => exact h.1.passed depth
    | cons t' ts =>
      rw [Json.joined_cons, List.foldlM_append, h.1.passed, Option.bind_eq_bind, Option.bind_some,
        List.foldlM_cons, Place.pass_of_not_moves (by decide)]
      exact ih h.2

theorem splitUnquoted_quote {quote : Char} {name : List Char} (hfree : quote ∉ name)
    (rest : List Char) :
    splitUnquoted ',' (some quote) (name ++ quote :: rest) =
      (name ++ quote :: (splitUnquoted ',' none rest).1, (splitUnquoted ',' none rest).2) := by
  induction name with
  | nil => simp [splitUnquoted]
  | cons c name ih =>
    rw [List.mem_cons, not_or] at hfree
    have hc : (c == quote) = false := beq_false_of_ne (Ne.symm hfree.1)
    rw [List.cons_append, splitUnquoted, hc]
    simp [ih hfree.2]

/-- No piece is split at a comma. -/
theorem splitUnquoted_piece {t : List Char} (h : Piece t) (rest : List Char) :
    splitUnquoted ',' none (t ++ rest) =
      (t ++ (splitUnquoted ',' none rest).1, (splitUnquoted ',' none rest).2) := by
  cases h with
  | plain hplain =>
    have hstops : ∀ c ∈ plainChars, isQuote c = false ∧ (c == ',') = false := by
      simp [plainChars, isQuote]
    induction t with
    | nil => rfl
    | cons c t ih =>
      rw [List.forall_mem_cons] at hplain
      obtain ⟨hquote, hcomma⟩ := hstops c hplain.1
      rw [List.cons_append, splitUnquoted, hquote, hcomma]
      simp [ih hplain.2]
  | @quoted quote name hquote hfree =>
    rw [quotedBy, List.cons_append, splitUnquoted, hquote, List.append_assoc]
    simp [splitUnquoted_quote hfree]

theorem splitUnquoted_joined {t : List Char} {ts : List (List Char)}
    (h : ∀ t' ∈ t :: ts, Piece t') :
    splitUnquoted ',' none (Json.joined [','] (t :: ts)) = (t, ts, none) := by
  induction ts generalizing t with
  | nil =>
    have hend := splitUnquoted_piece (h t List.mem_cons_self) []
    simpa [Json.joined, splitUnquoted] using hend
  | cons t' ts ih =>
    rw [List.forall_mem_cons] at h
    rw [Json.joined_cons, splitUnquoted_piece h.1, splitUnquoted]
    simp [isQuote, ih h.2]

/-! ## Members -/

theorem isIntegerText_toString (n : Int) : isIntegerText (toString n).toList = true := by
  refine isIntegerText_iff.2 ⟨signOf n, digitsOf n, [], ?_, ?_, .inl rfl, digitsOf_ne_nil n, ?_⟩
  · rw [toList_toString, List.append_nil]
  · unfold signOf
    split
    · exact .inr rfl
    · exact .inl rfl
  · intro c hc
    exact isDecimal_of_isAsciiDigit (isAsciiDigit_of_mem_digitsOf c hc)

theorem position_toString {n : Int} (h : Short n) : position (toString n).toList = .ok n := by
  rw [position, integerOf, integer?_toString h]
  rfl

theorem unquoted?_quotedBy {quote : Char} (h : isQuote quote = true) (name : List Char) :
    unquoted? (quotedBy quote name) = some name := by
  simp [unquoted?, quotedBy, h]

/-- Characters that are written first and last between brackets are no blanks. -/
theorem isBlank_of_mem_plainChars : ∀ c ∈ plainChars, isBlank c = false := by
  simp [plainChars, isBlank]

theorem isQuote_of_mem_plainChars : ∀ c ∈ plainChars, isQuote c = false := by
  simp [plainChars, isQuote]

theorem isBlank_of_isQuote {c : Char} (h : isQuote c = true) : isBlank c = false := by
  simp only [isQuote, Bool.or_eq_true, beq_iff_eq] at h
  rcases h with rfl | rfl <;> rfl

theorem ends_quotedBy {quote : Char} (h : isQuote quote = true) (name : List Char) :
    (∀ c ∈ (quotedBy quote name).head?, isBlank c = false) ∧
      ∀ c ∈ (quotedBy quote name).getLast?, isBlank c = false := by
  have hblank := isBlank_of_isQuote h
  refine ⟨?_, ?_⟩
  · simpa [quotedBy] using hblank
  · rw [quotedBy, ← List.cons_append, List.getLast?_concat]
    simpa using hblank

theorem trim_quotedBy {quote : Char} (h : isQuote quote = true) (name : List Char) :
    trim (quotedBy quote name) = quotedBy quote name :=
  trim_of_ends (ends_quotedBy h name).1 (ends_quotedBy h name).2

theorem Piece.ends {t : List Char} (h : Piece t) :
    (∀ c ∈ t.head?, isBlank c = false) ∧ ∀ c ∈ t.getLast?, isBlank c = false := by
  cases h with
  | plain hplain =>
    exact ⟨fun c hc => isBlank_of_mem_plainChars c (hplain c (List.mem_of_mem_head? hc)),
      fun c hc => isBlank_of_mem_plainChars c (hplain c (List.mem_of_mem_getLast? hc))⟩
  | quoted hquote _ => exact ends_quotedBy hquote _

theorem Piece.trim_eq {t : List Char} (h : Piece t) : trim t = t :=
  trim_of_ends h.ends.1 h.ends.2

/-- What is joined ends as its last piece does. -/
theorem getLast?_joined {ts : List (List Char)} (h : ∀ t ∈ ts, Piece t ∧ t ≠ []) :
    ∀ c ∈ (Json.joined [','] ts).getLast?, isBlank c = false := by
  induction ts with
  | nil => simp [Json.joined]
  | cons t ts ih =>
    rw [List.forall_mem_cons] at h
    cases ts with
    | nil => exact h.1.1.ends.2
    | cons t' ts =>
      have hne : Json.joined [','] (t' :: ts) ≠ [] := by
        obtain ⟨c, rest, hcons⟩ := List.exists_cons_of_ne_nil (h.2 t' List.mem_cons_self).2
        cases ts <;> simp [Json.joined, hcons]
      obtain ⟨c, rest, hcons⟩ := List.exists_cons_of_ne_nil hne
      have hlast := ih h.2
      rw [Json.joined_cons, List.getLast?_append, hcons, List.getLast?_cons_cons, ← hcons]
      intro d hd
      rw [hcons, List.getLast?_cons, Option.some_or, ← List.getLast?_cons, ← hcons] at hd
      exact hlast d hd

theorem MemberText.ne_nil {m : Member} {t : List Char} (h : MemberText m t) : t ≠ [] := by
  cases h with
  | name _ _ => exact List.cons_ne_nil _ _
  | @index n _ =>
    rw [toList_toString]
    simp [digitsOf_ne_nil]

/-- A written member is read. -/
theorem member_of_text {m : Member} {t : List Char} (h : MemberText m t) (path : String)
    (content : List Char) : member path content t = .ok m := by
  have htrim := h.piece.trim_eq
  have hne := h.ne_nil
  cases h with
  | @name k quote hquote _ =>
    rw [member, htrim]
    dsimp only [quotedBy]
    rw [if_pos hquote, ← quotedBy, unquoted?_quotedBy hquote, Option.getD_some,
      String.ofList_toList]
  | @index n hshort =>
    obtain ⟨c, rest, hcons⟩ := List.exists_cons_of_ne_nil hne
    have hc : isQuote c = false :=
      isQuote_of_mem_plainChars c (mem_plainChars (n := n) (hcons ▸ List.mem_cons_self))
    rw [member, htrim, hcons]
    dsimp only
    rw [hc, ← hcons, isIntegerText_toString, position_toString hshort]
    rfl

/-! ## Slices -/

theorem mem_boundText {bound : Option Int} {c : Char} (hc : c ∈ boundText bound) :
    c ∈ plainChars ∧ c ≠ ':' := by
  cases bound with
  | none => cases hc
  | some n =>
    refine ⟨mem_plainChars hc, ?_⟩
    rintro rfl
    rcases mem_toString hc with h | h
    · exact absurd h (by decide)
    · exact absurd h (by decide)

theorem splitOn_cons {cs : List Char} (h : ∀ c ∈ cs, c ≠ ':') (rest : List Char) :
    splitOn ':' (cs ++ ':' :: rest) = cs :: splitOn ':' rest := by
  induction cs with
  | nil => simp [splitOn]
  | cons c cs ih =>
    rw [List.forall_mem_cons] at h
    rw [List.cons_append, splitOn, beq_false_of_ne h.1, ih h.2]
    rfl

theorem splitOn_last {cs : List Char} (h : ∀ c ∈ cs, c ≠ ':') : splitOn ':' cs = [cs] := by
  induction cs with
  | nil => rfl
  | cons c cs ih =>
    rw [List.forall_mem_cons] at h
    rw [splitOn, beq_false_of_ne h.1, ih h.2]
    rfl

theorem sliceBound_boundText {bound : Option Int} (h : ShortBound bound) (path : String) :
    sliceBound path (boundText bound) = .ok bound := by
  have htrim : trim (boundText bound) = boundText bound :=
    (Piece.plain fun c hc => (mem_boundText hc).1).trim_eq
  cases bound with
  | none => rfl
  | some n =>
    have hempty : (toString n).toList.isEmpty = false := by
      rw [toList_toString]
      simp [digitsOf_ne_nil]
    have hbound : boundText (some n) = (toString n).toList := rfl
    rw [sliceBound, htrim, hbound]
    simp only [hempty, isIntegerText_toString, position_toString (h n rfl)]
    rfl

theorem slice_of_bounds {start stop step : Option Int} (hstart : ShortBound start)
    (hstop : ShortBound stop) (hstep : ShortBound step) (hzero : step ≠ some 0) (path : String) :
    slice path (boundText start ++ ':' :: (boundText stop ++ ':' :: boundText step)) =
      .ok (.slice start stop step) := by
  have hfree : ∀ {bound : Option Int}, ∀ c ∈ boundText bound, c ≠ ':' := fun c hc =>
    (mem_boundText hc).2
  rw [slice, splitOn_cons hfree, splitOn_cons hfree, splitOn_last hfree]
  simp [sliceBound_boundText, hstart, hstop, hstep, hzero, bind, Except.bind, pure, Except.pure]

theorem slice_of_openBounds {start stop : Option Int} (hstart : ShortBound start)
    (hstop : ShortBound stop) (path : String) :
    slice path (boundText start ++ ':' :: boundText stop) = .ok (.slice start stop none) := by
  have hfree : ∀ {bound : Option Int}, ∀ c ∈ boundText bound, c ≠ ':' := fun c hc =>
    (mem_boundText hc).2
  rw [slice, splitOn_cons hfree, splitOn_last hfree]
  simp [sliceBound_boundText, hstart, hstop, bind, Except.bind, pure, Except.pure]

/-! ## Brackets -/

/-- What stands between brackets is a slice or a list of members unless it is a star or a filter. -/
theorem bracket_of_first {first : Char} {rest part : List Char} {parts : List (List Char)}
    (htrim : trim (first :: rest) = first :: rest) (hstar : first ≠ '*') (hfilter : first ≠ '?')
    (hsplit : splitUnquoted ',' none (first :: rest) = (part, parts, none)) (fuel : Nat)
    (path : String) :
    bracket fuel path (first :: rest) =
      if parts.isEmpty && (first :: rest).contains ':' && !isQuote first then
        slice path (first :: rest)
      else ((part :: parts).mapM (member path (first :: rest))).map .members := by
  rw [bracket, htrim]
  split
  · next h => cases h
  · next h => exact absurd (List.cons.inj h).1 hstar
  · next h => exact absurd (List.cons.inj h).1 hfilter
  · next first' rest' _ _ h =>
    obtain ⟨rfl, rfl⟩ := List.cons.inj h
    rw [hsplit]
    dsimp only
    cases (part :: parts).mapM (member path (first :: rest)) <;> rfl

/-- A piece starts with no star and no question mark. -/
theorem Piece.first_ne {first : Char} {rest : List Char} (h : Piece (first :: rest)) :
    first ≠ '*' ∧ first ≠ '?' := by
  have hplain : ∀ c ∈ plainChars, c ≠ '*' ∧ c ≠ '?' := by
    simp [plainChars]
  generalize ht : first :: rest = t at h
  cases h with
  | plain hall =>
    subst ht
    exact hplain first (hall first List.mem_cons_self)
  | quoted hquote _ =>
    obtain ⟨rfl, -⟩ := List.cons.inj ht
    constructor
    · rintro rfl
      cases hquote
    · rintro rfl
      cases hquote

/-- Only quoted pieces hold colons. -/
theorem MemberText.no_slice {m : Member} {first : Char} {rest : List Char}
    (h : MemberText m (first :: rest)) :
    ((first :: rest).contains ':' && !isQuote first) = false := by
  generalize ht : first :: rest = t at h
  cases h with
  | name hquote _ =>
    obtain ⟨rfl, -⟩ := List.cons.inj ht
    simp [hquote]
  | @index n _ =>
    have hcolon : ':' ∉ (toString n).toList := by
      intro hc
      rcases mem_toString hc with h | h
      · exact absurd h (by decide)
      · exact absurd h (by decide)
    rw [List.contains_eq_mem, decide_eq_false (ht ▸ hcolon)]
    rfl

theorem pieces_of_members {ms : List Member} {ts : List (List Char)}
    (h : List.Forall₂ MemberText ms ts) : ∀ t ∈ ts, Piece t ∧ t ≠ [] := by
  induction h with
  | nil => exact fun _ ht => nomatch ht
  | cons hm _ ih => exact List.forall_mem_cons.2 ⟨⟨hm.piece, hm.ne_nil⟩, ih⟩

theorem mapM_member {ms : List Member} {ts : List (List Char)} (h : List.Forall₂ MemberText ms ts)
    (path : String) (content : List Char) : ts.mapM (member path content) = .ok ms := by
  induction h with
  | nil => rfl
  | cons hm _ ih =>
    rw [List.mapM_cons, member_of_text hm, ih]
    rfl

theorem bracket_of_members {ms : List Member} {ts : List (List Char)} (hne : ms ≠ [])
    (h : List.Forall₂ MemberText ms ts) (fuel : Nat) (path : String) :
    bracket fuel path (Json.joined [','] ts) = .ok (.members ms) := by
  cases h with
  | nil => exact absurd rfl hne
  | @cons m t ms ts hm hms =>
    have hpieces := pieces_of_members (.cons hm hms)
    have hsplit := splitUnquoted_joined fun t' ht' => (hpieces t' ht').1
    have hread := mapM_member (.cons hm hms) path (Json.joined [','] (t :: ts))
    obtain ⟨first, rest, rfl⟩ := List.exists_cons_of_ne_nil hm.ne_nil
    -- The bracket is told apart by its first character, which is that of the first member.
    obtain ⟨behind, hjoined⟩ :
        ∃ behind, Json.joined [','] ((first :: rest) :: ts) = first :: behind := by
      cases ts <;> simp [Json.joined]
    have htrim : trim (first :: behind) = first :: behind := by
      refine trim_of_ends ?_ (hjoined ▸ getLast?_joined hpieces)
      simpa using hm.piece.ends.1
    rw [hjoined] at hsplit hread ⊢
    rw [bracket_of_first htrim hm.piece.first_ne.1 hm.piece.first_ne.2 hsplit, hread, if_neg]
    · rfl
    · cases ts with
      | nil =>
        obtain rfl : rest = behind := (List.cons.inj hjoined).2
        rw [List.isEmpty_nil, Bool.true_and, hm.no_slice]
        exact Bool.false_ne_true
      | cons t' ts => simp

theorem bracket_of_slice {cs : List Char} {s : Selector} (hplain : ∀ c ∈ cs, c ∈ plainChars)
    (hcolon : ':' ∈ cs) (path : String) (hslice : slice path cs = .ok s) (fuel : Nat) :
    bracket fuel path cs = .ok s := by
  obtain ⟨first, rest, rfl⟩ := List.exists_cons_of_ne_nil (List.ne_nil_of_mem hcolon)
  have hpiece : Piece (first :: rest) := .plain hplain
  have hsplit : splitUnquoted ',' none (first :: rest) = (first :: rest, [], none) :=
    splitUnquoted_joined (List.forall_mem_singleton.2 hpiece)
  have hquote := isQuote_of_mem_plainChars first (hplain first List.mem_cons_self)
  rw [bracket_of_first hpiece.trim_eq hpiece.first_ne.1 hpiece.first_ne.2 hsplit]
  simp [hcolon, hquote, hslice]

/-- What is written between brackets is read as the selector. -/
theorem bracket_of_text {s : Selector} {t : List Char} (h : BracketText s t) (fuel : Nat)
    (path : String) : bracket fuel path t = .ok s := by
  have hplain : ∀ {bound : Option Int}, ∀ c ∈ boundText bound, c ∈ plainChars := fun c hc =>
    (mem_boundText hc).1
  have hcolon : ':' ∈ plainChars := by simp [plainChars]
  cases h with
  | members hne hms => exact bracket_of_members hne hms fuel path
  | wildcard =>
    rw [bracket]
    rfl
  | slice hstart hstop hstep hzero =>
    refine bracket_of_slice ?_ (by simp) path (slice_of_bounds hstart hstop hstep hzero path) fuel
    simp only [List.forall_mem_append, List.forall_mem_cons]
    exact ⟨hplain, hcolon, hplain, hcolon, hplain⟩
  | openSlice hstart hstop =>
    refine bracket_of_slice ?_ (by simp) path (slice_of_openBounds hstart hstop path) fuel
    simp only [List.forall_mem_append, List.forall_mem_cons]
    exact ⟨hplain, hcolon, hplain⟩

/-- What is written between brackets ends at the first bracket behind it. -/
theorem closing_of_text {s : Selector} {t : List Char} (h : BracketText s t) (rest : List Char) :
    closing none 0 [] (t ++ ']' :: rest) = .closed t rest := by
  have hplain : ∀ {bound : Option Int}, ∀ c ∈ boundText bound, c ∈ plainChars := fun c hc =>
    (mem_boundText hc).1
  have hcolon : ':' ∈ plainChars := by simp [plainChars]
  refine Place.closing_of_content ?_ rest
  cases h with
  | members _ hms => exact passed_joined (fun t ht => (pieces_of_members hms t ht).1) 0
  | wildcard => rfl
  | slice _ _ _ _ =>
    refine (Piece.plain ?_).passed 0
    simp only [List.forall_mem_append, List.forall_mem_cons]
    exact ⟨hplain, hcolon, hplain, hcolon, hplain⟩
  | openSlice _ _ =>
    refine (Piece.plain ?_).passed 0
    simp only [List.forall_mem_append, List.forall_mem_cons]
    exact ⟨hplain, hcolon, hplain⟩

/-! ## Queries -/

/-- Written selectors are read one by one, each with a unit of fuel. -/
theorem selectors_of_text {q : Query} {ts : List (List Char)} (h : List.Forall₂ SelectorText q ts)
    {fuel : Nat} (hfuel : q.length ≤ fuel) (path : String) (pos : Nat) :
    selectors fuel path pos ts.flatten = .ok q := by
  induction h generalizing fuel pos with
  | nil => cases fuel <;> rw [List.flatten_nil, selectors]
  | @cons s t q ts hs _ ih =>
    obtain ⟨fuel, rfl⟩ : ∃ n, fuel = n + 1 := Nat.exists_eq_add_one.2 (by simp at hfuel; omega)
    have hmore : ∀ pos, selectors fuel path pos ts.flatten = .ok q :=
      fun pos => ih (Nat.le_of_succ_le_succ hfuel) pos
    have hbracketed : ∀ {s t}, BracketText s t → ∀ pos wrap,
        bracketed fuel path pos (t ++ ']' :: ts.flatten) wrap = .ok (wrap s :: q) := by
      intro s t ht pos wrap
      rw [bracketed, closing_of_text ht]
      dsimp only
      rw [bracket_of_text ht, hmore]
      rfl
    cases hs with
    | bracket ht =>
      rw [List.flatten_cons, List.cons_append, List.append_assoc, List.singleton_append, selectors]
      exact hbracketed ht pos id
    | descent ht =>
      rw [List.flatten_cons, List.cons_append, List.cons_append, List.cons_append,
        List.append_assoc, List.singleton_append, selectors]
      exact hbracketed ht (pos + 2) .descend

theorem length_le_of_selectorText {q : Query} {ts : List (List Char)}
    (h : List.Forall₂ SelectorText q ts) : q.length ≤ ts.flatten.length := by
  induction h with
  | nil => exact Nat.le_refl _
  | cons hs _ ih =>
    rw [List.flatten_cons, List.length_append, List.length_cons]
    cases hs <;> simp only [List.length_cons] <;> omega

/-- What a query is written as starts with the root and ends with it or with a bracket. -/
theorem trim_of_written {q : Query} {ts : List (List Char)} (h : List.Forall₂ SelectorText q ts) :
    trim ('$' :: ts.flatten) = '$' :: ts.flatten := by
  refine trim_of_ends (by simp; decide) ?_
  -- Every selector is written with a bracket at its end, so the text ends in one or in the root.
  suffices hlast : ∀ c ∈ ts.flatten.getLast?, c = ']' by
    intro c hc
    rw [List.getLast?_cons] at hc
    cases htext : ts.flatten.getLast? with
    | none =>
      rw [htext] at hc
      cases hc
      decide
    | some d =>
      rw [htext] at hc
      cases hc
      rw [hlast d htext]
      decide
  induction h with
  | nil => simp
  | @cons s t q ts hs _ ih =>
    have hown : ∃ front, t = front ++ [']'] := by
      cases hs with
      | @bracket _ t _ => exact ⟨'[' :: t, rfl⟩
      | @descent _ t _ => exact ⟨'.' :: '.' :: '[' :: t, rfl⟩
    obtain ⟨front, rfl⟩ := hown
    intro c hc
    rw [List.flatten_cons, List.getLast?_append, List.getLast?_concat] at hc
    cases htext : ts.flatten.getLast? with
    | none =>
      rw [htext] at hc
      cases hc
      rfl
    | some d =>
      rw [htext] at hc
      cases hc
      exact ih _ htext

/-- A query of writable selectors has a text in brackets, and each such text is read as it. -/
theorem parse_written {q : Query} (h : ∀ s ∈ q, WritableSelector s) :
    (∃ text, Written q text) ∧ ∀ text, Written q text → parse text = .ok q := by
  refine ⟨exists_written h, ?_⟩
  rintro text ⟨ts, hts, htext⟩
  have hlength : q.length ≤ text.length + 1 := by
    have hle := length_le_of_selectorText hts
    rw [← String.length_toList, htext, List.length_cons]
    omega
  rw [parse, htext, parseWith, trim_of_written hts]
  exact selectors_of_text hts hlength _ _

/-- A union of a name that holds brackets, a quote and a comma, of the empty name and of a
    position; all members of all nodes; and a slice from its end. -/
def mixedQuery : Query :=
  [.members [.name "a]['b,", .name "", .index (-1)], .descend .wildcard,
    .slice none (some 3) (some (-2))]

theorem mixedQuery_short : Short (-1) ∧ ShortBound (some 3) ∧ ShortBound (some (-2)) := by
  have hshort : ∀ n : Int, n.natAbs < 10 ^ 1 → Short n := fun n hn => short_of_lt (by decide) hn
  refine ⟨hshort (-1) (by decide), ?_, ?_⟩
  · rintro _ ⟨rfl⟩
    exact hshort 3 (by decide)
  · rintro _ ⟨rfl⟩
    exact hshort (-2) (by decide)

theorem mixedQuery_writable : ∀ s ∈ mixedQuery, WritableSelector s := by
  obtain ⟨hindex, hstop, hstep⟩ := mixedQuery_short
  simp only [mixedQuery, List.forall_mem_cons]
  refine ⟨⟨by simp, ?_⟩, trivial, ⟨nofun, hstop, hstep, by decide⟩, nofun⟩
  simp only [List.forall_mem_cons]
  exact ⟨.inr (by decide), .inl (by decide), hindex, nofun⟩

theorem mixedQuery_written : Written mixedQuery "$[\"a]['b,\",'',-1]..[*][:3:-2]" := by
  obtain ⟨hindex, hstop, hstep⟩ := mixedQuery_short
  have hfirst : MemberText (.name "a]['b,") (quotedBy '"' "a]['b,".toList) :=
    .name (by decide) (by decide)
  have hsecond : MemberText (.name "") (quotedBy '\'' "".toList) := .name (by decide) (by decide)
  have hmembers := BracketText.members (List.cons_ne_nil _ _)
    (.cons hfirst (.cons hsecond (.cons (.index hindex) .nil)))
  have hstart : ShortBound none := nofun
  have hslice := BracketText.slice hstart hstop hstep (by decide)
  exact ⟨_, .cons (.bracket hmembers) (.cons (.descent .wildcard) (.cons (.bracket hslice) .nil)),
    by decide +kernel⟩

theorem parse_mixedQuery : (∀ s ∈ mixedQuery, WritableSelector s) ∧
    Written mixedQuery "$[\"a]['b,\",'',-1]..[*][:3:-2]" ∧
    parse "$[\"a]['b,\",'',-1]..[*][:3:-2]" = .ok mixedQuery :=
  ⟨mixedQuery_writable, mixedQuery_written,
    (parse_written mixedQuery_writable).2 _ mixedQuery_written⟩

end ApiJourney.Query
