-- SUMMARY: Filters that compare with a written literal, and which of them are read back.
import ApiJourney.Proofs.Json.Written
import ApiJourney.Proofs.Query.Spelling

/-!
# Literals of filters

A filter compares with a literal that is written as JSON. Before that text is read, the scanner for
the bracket behind the filter has to pass over it, and the scanner knows quotes but no escapes: for
it an escaped quote ends the text, and what follows stands outside of quotes until the next one. So
a text is read back if its own quotes, brackets and parentheses bring the scanner back to where it
entered the text, as those of a text without double quotes do. Otherwise the path is refused.
-/

namespace ApiJourney.Query

open Text Json

/-! ## Escapes -/

namespace Place

variable {c : Char}

theorem moves_of_mem_hex {n : Nat} (hn : n < 0x10000) (hc : c ∈ hex 4 n) : moves c = false := by
  have hdigit : ∀ d < 16, moves d.digitChar = false := by decide
  rw [hex_four hn] at hc
  simp only [List.mem_cons, List.not_mem_nil, or_false] at hc
  rcases hc with rfl | rfl | rfl | rfl <;> exact hdigit _ (by omega)

theorem moves_of_mem_unitEscape {n : Nat} (hn : n < 0x10000) (hc : c ∈ unitEscape n) :
    moves c = false := by
  rw [unitEscape, List.mem_cons, List.mem_cons] at hc
  rcases hc with rfl | rfl | hc
  · rfl
  · rfl
  · exact moves_of_mem_hex hn hc

theorem moves_of_mem_codeEscape {d : Char} (hd : d ∈ codeEscape (codeOf c)) : moves d = false := by
  have hlt := codeOf_lt c
  unfold codeEscape at hd
  split_ifs at hd with hplane
  · exact moves_of_mem_unitEscape hplane hd
  · rcases List.mem_append.1 hd with hd | hd
    · exact moves_of_mem_unitEscape (by omega) hd
    · exact moves_of_mem_unitEscape (by omega) hd

/-- An escape moves the scanner as the character would that it stands for. -/
theorem foldlM_charText {s : Style} {t : List Char} (h : CharText s c t) (p : Place) :
    t.foldlM pass p = p.pass c := by
  cases h with
  | @short d hshort =>
    have hmoves : ∀ e ∈ shortEscapes, e.1 = e.2 ∨ moves e.1 = false ∧ moves e.2 = false := by
      decide
    rw [List.foldlM_cons, pass_of_not_moves (by decide)]
    rcases hmoves _ hshort with hsame | ⟨hc, hd⟩
    · obtain rfl : c = d := hsame
      simp
    · simp [pass_of_not_moves hc, pass_of_not_moves hd]
  | code hcode =>
    have hc : moves c = false := by
      simp only [moves, isQuote, Bool.or_eq_false_iff, beq_eq_false_iff_ne]
      refine ⟨⟨⟨⟨⟨?_, ?_⟩, ?_⟩, ?_⟩, ?_⟩, ?_⟩ <;> rintro rfl <;> revert hcode <;> simp
    rw [foldlM_of_not_moves (fun d => moves_of_mem_codeEscape), pass_of_not_moves hc]
  | plain _ _ _ => simp

theorem foldlM_written (s : Style) (cs : List Char) (p : Place) :
    (cs.flatMap (escapeChar s)).foldlM pass p = cs.foldlM pass p := by
  induction cs generalizing p with
  | nil => rfl
  | cons c cs ih =>
    rw [List.flatMap_cons, List.foldlM_append, foldlM_charText (charText_escapeChar s c),
      List.foldlM_cons]
    simp only [ih]

end Place

/-! ## Literals -/

/-- A value without parts whose text is read as the value. -/
inductive Scalar (style : Style) : Value → Prop where
  | null : Scalar style .null
  | bool (b : Bool) : Scalar style (.bool b)
  | int {n : Int} : Numeral.Short n → Scalar style (.int n)
  | text {s : String} : Unpaired style s.toList → Scalar style (.text s)

/-- Where the scanner is behind the first quote of a literal. -/
def literalPlace : Place :=
  .inside '"' rfl 1

/-- A literal that brings the scanner back to where it entered the text between its quotes. -/
def Enclosed : Value → Prop
  | .text s => s.toList.foldlM Place.pass literalPlace = some literalPlace
  | _ => True

instance : DecidablePred Enclosed
  | .text s =>
    inferInstanceAs (Decidable (s.toList.foldlM Place.pass literalPlace = some literalPlace))
  | .null | .bool _ | .int _ | .float _ | .bytes _ | .list _ | .tuple _ | .dict _ | .complex _ _
  | .ellipsis | .foreign _ => .isTrue trivial

theorem enclosed_of_no_quote {v : Value} (h : ∀ s, v = .text s → '"' ∉ s.toList) : Enclosed v := by
  cases v with
  | text s => exact Place.foldlM_inside rfl 1 (h s rfl)
  | _ => trivial

/-- A text that a filter can compare with stands for its value and is not taken for another. -/
structure LiteralText (t : List Char) (v : Value) : Prop where
  trimmed : trim t = t
  first : t.head? ≠ some '\''
  read_eq : Json.read t = .ok v

theorem literal_of_text {t : List Char} {v : Value} (h : LiteralText t v) :
    literal (' ' :: t) = .ok v := by
  have hblank : trim (' ' :: t) = trim t := rfl
  have hfirst : ¬ (t.head? == some '\'') = true := by
    rw [beq_iff_eq]
    exact h.first
  rw [literal, hblank, h.trimmed, if_neg hfirst]
  dsimp only
  rw [h.read_eq]

theorem literalText_int {n : Int} (h : Numeral.Short n) :
    LiteralText (toString n).toList (.int n) := by
  refine ⟨(Piece.plain fun c hc => mem_plainChars hc).trim_eq, fun hfirst => ?_,
    (standsFor_int 0 h).read_eq (Nat.zero_le _)⟩
  have hquote : '\'' ∉ plainChars := by decide
  exact hquote (mem_plainChars (List.mem_of_mem_head? hfirst))

theorem literalText_text {style : Style} {s : String} (h : Unpaired style s.toList) :
    LiteralText (writeText style s.toList) (.text s) := by
  refine ⟨trim_of_ends ?_ ?_, ?_, (standsFor_text 0 h).read_eq (Nat.zero_le _)⟩
  · rintro c hc
    obtain rfl := Option.some.inj hc
    rfl
  · rw [writeText, List.getLast?_concat]
    rintro c hc
    obtain rfl := Option.some.inj hc
    rfl
  · simp [writeText]

/-- The scanner passes over a literal outside of quotes, if it is enclosed. -/
theorem exists_literalText {style : Style} {v : Value} (h : Scalar style v) :
    ∃ t, write style v = .ok t ∧ LiteralText t v ∧
      (Enclosed v → t.foldlM Place.pass (.outside 1) = some (.outside 1)) := by
  cases h with
  | null =>
    refine ⟨_, by rw [write], ⟨rfl, by decide, ?_⟩, fun _ => rfl⟩
    exact (standsFor_null 0).read_eq (Nat.zero_le _)
  | bool b =>
    refine ⟨_, by rw [write], ?_⟩
    cases b with
    | true => exact ⟨⟨rfl, by decide, (standsFor_true 0).read_eq (Nat.zero_le _)⟩, fun _ => rfl⟩
    | false => exact ⟨⟨rfl, by decide, (standsFor_false 0).read_eq (Nat.zero_le _)⟩, fun _ => rfl⟩
  | @int n hn =>
    refine ⟨(toString n).toList, ?_, literalText_int hn, fun _ => ?_⟩
    · rw [write, writeInt_of_short hn]
    · exact Place.foldlM_of_not_moves
        (fun c hc => moves_of_mem_plainChars c (mem_plainChars hc)) _
  | @text s hs =>
    refine ⟨_, by rw [write], literalText_text hs, fun henclosed => ?_⟩
    have hinside : (s.toList.flatMap (escapeChar style)).foldlM Place.pass literalPlace =
        some literalPlace := (Place.foldlM_written style s.toList literalPlace).trans henclosed
    exact Place.foldlM_quoted rfl 1 hinside

/-! ## Comparisons -/

/-- How a comparison is written. -/
def sign : Comparison → String
  | .eq => "=="
  | .ne => "!="
  | .gt => ">"
  | .ge => ">="
  | .lt => "<"
  | .le => "<="

/-- What stands in front of the literal in a filter that compares the member `a` with it. -/
def comparing (op : Comparison) : List Char :=
  '@' :: '.' :: 'a' :: ' ' :: ((sign op).toList ++ [' '])

/-- The path of the nodes whose member `a` compares with a literal. -/
def comparingPath (op : Comparison) (t : List Char) : String :=
  "$[?(" ++ String.ofList (comparing op ++ t) ++ ")]"

/-- The selector that the path stands for. -/
def comparison (op : Comparison) (v : Value) : Selector :=
  .filter [.members [.name "a"]] (.compare op v)

theorem toList_comparingPath (op : Comparison) (t : List Char) : (comparingPath op t).toList =
    '$' :: '[' :: '?' :: '(' :: (comparing op ++ (t ++ [')', ']'])) := by
  simp [comparingPath, String.toList_append]

theorem comparison?_sign (op : Comparison) (t : List Char) :
    comparison? ((sign op).toList ++ ' ' :: t) = some (op, ' ' :: t) := by
  cases op <;> simp [comparison?, comparisonSigns, sign, after?]

theorem filterParts?_comparing (op : Comparison) (t : List Char) :
    filterParts? (comparing op ++ t) = some (['.', 'a'], some (op, ' ' :: t)) := by
  have hsign : trimStart (' ' :: ((sign op).toList ++ ' ' :: t)) =
      (sign op).toList ++ ' ' :: t := by
    cases op <;> simp [sign, trimStart, isBlank]
  have hfront : trimStart (comparing op ++ t) = comparing op ++ t := rfl
  unfold filterParts?
  rw [hfront, comparing]
  simp [isFilterPathChar, isBlank, hsign, comparison?_sign]

theorem plainName_a : PlainName "a" :=
  ⟨by decide, by simp [isNameChar], rfl, by decide⟩

theorem filter_comparing (op : Comparison) (t : List Char) (fuel : Nat) (path : String) :
    filter (fuel + 2) path (comparing op ++ t) = (literal (' ' :: t)).map (comparison op) := by
  have hrelative : parseWith (fuel + 1) ['$', '.', 'a'] = .ok [.members [.name "a"]] := by
    rw [parseWith_root]
    exact selectors_of_front (plainName_a.front _) (fun pos => by rw [selectors]) 1
  unfold filter
  rw [filterParts?_comparing]
  dsimp only
  rw [hrelative]
  cases literal (' ' :: t) <;> rfl

theorem bracket_question (fuel : Nat) (path : String) (cs : List Char) :
    bracket fuel path ('?' :: '(' :: cs) =
      if (trimEnd cs).getLast? == some ')' then filter fuel path (trimEnd cs).dropLast
      else refuse (.filterForm path) := by
  have hopened : ∀ cs, trim ('(' :: cs) = '(' :: trimEnd cs := trim_cons (by decide)
  have hcontent : trim ('?' :: '(' :: cs) = '?' :: '(' :: trimEnd cs := by
    rw [trim_cons (by decide), trimEnd, dropEndWhile_cons (by decide), trimEnd]
  rw [bracket, hcontent]
  split
  · next h => cases h
  · next h => cases h
  · next rest h =>
    obtain rfl := (List.cons.inj h).2
    rw [hopened, trimEnd_trimEnd]
    rfl
  · next hquestion h => exact (hquestion (List.cons.inj h).1.symm).elim

/-- What stands in parentheses is a filter, with blanks behind them or not. -/
theorem bracket_parentheses (fuel : Nat) (path : String) (cs : List Char) :
    bracket fuel path ('?' :: '(' :: (cs ++ [')'])) = filter fuel path cs := by
  rw [bracket_question, trimEnd_concat (c := ')') rfl, List.getLast?_concat, if_pos (by simp),
    List.dropLast_concat]

/-- A literal that is cut off in its text is refused. -/
theorem literal_cutOff {style : Style} {cs front : List Char}
    (h : front <+: cs.flatMap (escapeChar style)) :
    ∃ e, literal (' ' :: '"' :: front) = refuse e := by
  have htrim : trim (' ' :: '"' :: front) = '"' :: trimEnd front :=
    trim_cons (c := '"') rfl front
  have hbody := textBody_cutOff ((dropEndWhile_isPrefix isBlank front).trans h)
  have hread : Json.read ('"' :: trimEnd front) = .error .malformed := by
    have hblanks : skipBlanks ('"' :: trimEnd front) = '"' :: trimEnd front := rfl
    rw [Json.read, hblanks, List.length_cons, value, trimEnd, hbody]
    rfl
  refine ⟨.literal (String.ofList ('"' :: trimEnd front)), ?_⟩
  rw [literal, htrim, if_neg (by simp)]
  dsimp only
  rw [hread]
  rfl

/-- A filter that is cut off in the text of its literal is refused, whether it ends as a filter
    does or not. -/
theorem bracket_cutOff (op : Comparison) {style : Style} {cs front : List Char}
    (h : front <+: cs.flatMap (escapeChar style)) (fuel : Nat) (path : String) :
    ∃ e, bracket (fuel + 2) path ('?' :: '(' :: (comparing op ++ '"' :: front)) = refuse e := by
  have htrim : trimEnd (comparing op ++ '"' :: front) = comparing op ++ '"' :: trimEnd front :=
    dropEndWhile_append (by decide) _ _
  rw [bracket_question, htrim]
  split_ifs with hlast
  -- The parenthesis at the end is one of the text, since the quote in front of it is none.
  · rcases List.eq_nil_or_concat' (trimEnd front) with hfront | ⟨front', c, hfront⟩
    · rw [hfront, List.getLast?_concat] at hlast
      cases hlast
    · have hshorter : front' <+: cs.flatMap (escapeChar style) := by
        refine List.IsPrefix.trans ?_ ((dropEndWhile_isPrefix isBlank front).trans h)
        rw [← trimEnd, hfront]
        exact List.prefix_append _ _
      obtain ⟨e, he⟩ := literal_cutOff hshorter
      refine ⟨e, ?_⟩
      rw [hfront, ← List.cons_append, ← List.append_assoc, List.dropLast_concat, filter_comparing,
        he]
      rfl
  · exact ⟨_, rfl⟩

/-! ## Paths -/

theorem trimEnd_comparing (op : Comparison) (t : List Char) :
    trimEnd ('[' :: '?' :: '(' :: (comparing op ++ (t ++ [')', ']']))) =
      '[' :: '?' :: '(' :: (comparing op ++ (t ++ [')', ']'])) := by
  have hlast := trimEnd_concat (c := ']') rfl ('[' :: '?' :: '(' :: (comparing op ++ (t ++ [')'])))
  simpa using hlast

/-- A path of a comparison is one bracket. -/
theorem parse_comparingPath (op : Comparison) (t : List Char) : ∃ fuel path,
    parse (comparingPath op t) =
      bracketed (fuel + 2) path 1 ('?' :: '(' :: (comparing op ++ (t ++ [')', ']']))) id := by
  obtain ⟨fuel, hfuel⟩ : ∃ n, (comparingPath op t).length = n + 2 := by
    rw [← String.length_toList, toList_comparingPath]
    exact ⟨_, rfl⟩
  refine ⟨fuel, String.ofList (comparingPath op t).toList, ?_⟩
  rw [parse, hfuel, toList_comparingPath, parseWith_root, trimEnd_comparing, selectors]

/-- The scanner reaches the literal in one parenthesis. -/
theorem closing_comparing (op : Comparison) (cs : List Char) :
    Query.closing none 0 [] ('?' :: '(' :: (comparing op ++ cs)) =
      (Place.outside 1).closing ('?' :: '(' :: comparing op).reverse cs := by
  have hopen : ('?' :: '(' :: comparing op).foldlM Place.pass (.outside 0) =
      some (.outside 1) := by
    cases op <;> rfl
  have hsearch := Place.closing_of_passed hopen [] cs
  rwa [List.append_nil] at hsearch

/-- The scanner passes over the filter if it passes over the literal. -/
theorem closing_comparing_of_passed (op : Comparison) {t : List Char}
    (hpass : t.foldlM Place.pass (.outside 1) = some (.outside 1)) :
    Query.closing none 0 [] ('?' :: '(' :: (comparing op ++ (t ++ [')', ']']))) =
      .closed ('?' :: '(' :: (comparing op ++ t ++ [')'])) [] := by
  have hround : Place.pass (.outside 1) ')' = some (.outside 0) := rfl
  have hsquare : Place.pass (.outside 0) ']' = none := rfl
  rw [closing_comparing, Place.closing_of_passed hpass, Place.closing_of_pass hround,
    Place.closing_of_end hsquare]
  simp

/-- A comparison is read with any literal that is read, if the scanner passes over it. -/
theorem parse_of_literal (op : Comparison) {t : List Char} {v : Value}
    (h : literal (' ' :: t) = .ok v)
    (hpass : t.foldlM Place.pass (.outside 1) = some (.outside 1)) :
    parse (comparingPath op t) = .ok [comparison op v] := by
  obtain ⟨fuel, path, hparse⟩ := parse_comparingPath op t
  have hcontent : bracket (fuel + 2) path ('?' :: '(' :: (comparing op ++ t ++ [')'])) =
      .ok (comparison op v) := by
    rw [bracket_parentheses, filter_comparing, h]
    rfl
  rw [hparse]
  exact bracketed_of_closing (closing_comparing_of_passed op hpass) hcontent fun pos => by
    rw [selectors]

/-- A comparison whose literal the scanner passes over is read with it. -/
theorem parse_of_passed (op : Comparison) {t : List Char} {v : Value} (h : LiteralText t v)
    (hpass : t.foldlM Place.pass (.outside 1) = some (.outside 1)) :
    parse (comparingPath op t) = .ok [comparison op v] :=
  parse_of_literal op (literal_of_text h) hpass

/-- Behind a text from which the scanner does not come back, it does not find the bracket. -/
theorem closing_of_astray {p : Place} (h : p ≠ literalPlace) (seen : List Char) :
    p.closing seen ['"', ')', ']'] = .unclosed ∨ p.closing seen ['"', ')', ']'] = .unbalanced := by
  cases p with
  | outside depth => exact .inl rfl
  | inside quote hquote depth =>
    have hcases : quote = '\'' ∨ quote = '"' := by simpa [isQuote] using hquote
    rcases hcases with rfl | rfl
    · exact .inl rfl
    · rcases depth with _ | _ | depth
      · exact .inr rfl
      · exact absurd rfl h
      · exact .inl rfl

/-- A comparison with a text that is not enclosed is refused. -/
theorem parse_of_not_enclosed (op : Comparison) (style : Style) {s : String}
    (h : ¬ Enclosed (.text s)) :
    ∃ e, parse (comparingPath op (writeText style s.toList)) = refuse e := by
  obtain ⟨fuel, path, hparse⟩ := parse_comparingPath op (writeText style s.toList)
  have hopen : Place.pass (.outside 1) '"' = some literalPlace := rfl
  have htext : writeText style s.toList ++ [')', ']'] =
      '"' :: (s.toList.flatMap (escapeChar style) ++ ['"', ')', ']']) := writeText_append _ _ _
  rw [hparse, htext, bracketed, closing_comparing, Place.closing_of_pass hopen]
  -- Either a bracket in the text ends the search, or the scanner is astray behind the text.
  cases hbody : (s.toList.flatMap (escapeChar style)).foldlM Place.pass literalPlace with
  | none =>
    rcases Place.closing_of_stop hbody ('"' :: ('?' :: '(' :: comparing op).reverse)
      ['"', ')', ']'] with hstop | ⟨front, left, hfront, hstop⟩
    · exact ⟨.unbalanced path, by rw [hstop]⟩
    · obtain ⟨e, he⟩ := bracket_cutOff op hfront fuel path
      refine ⟨e, ?_⟩
      have hcontent : ('"' :: ('?' :: '(' :: comparing op).reverse).reverse ++ front =
          '?' :: '(' :: (comparing op ++ '"' :: front) := by simp
      rw [hstop, hcontent]
      dsimp only
      rw [he]
      rfl
  | some p =>
    have hastray : p ≠ literalPlace := by
      rintro rfl
      rw [Place.foldlM_written] at hbody
      exact h hbody
    rw [Place.closing_of_passed hbody]
    rcases closing_of_astray hastray _ with hend | hend
    · exact ⟨.unclosed 1 path, by rw [hend]⟩
    · exact ⟨.unbalanced path, by rw [hend]⟩

/-- A filter that compares with a written scalar is read with the same comparison and the same
    value if the scalar is enclosed, and refused if it is not. Only texts with double quotes may not
    be enclosed. -/
theorem comparison_read {style : Style} {v : Value} (h : Scalar style v) (op : Comparison) :
    ∃ t, write style v = .ok t ∧
      (Enclosed v → parse (comparingPath op t) = .ok [comparison op v]) ∧
      (¬ Enclosed v → ∃ e, parse (comparingPath op t) = .error (.error e)) ∧
      ((∀ s, v = .text s → '"' ∉ s.toList) → Enclosed v) := by
  obtain ⟨t, hwrite, htext, hpass⟩ := exists_literalText h
  refine ⟨t, hwrite, fun henclosed => parse_of_passed op htext (hpass henclosed), fun hopen => ?_,
    enclosed_of_no_quote⟩
  cases v with
  | text s =>
    rw [write] at hwrite
    obtain rfl := Except.ok.inj hwrite
    exact parse_of_not_enclosed op style hopen
  | _ => exact absurd trivial hopen

/-- Two escaped quotes are as good as none if only closed parentheses stand between them. -/
theorem comparison_read_quotedWord :
    Scalar spaced (.text "caf\u00e9 \"(x)\" y") ∧
    ∃ t, write spaced (.text "caf\u00e9 \"(x)\" y") = .ok t ∧
      parse (comparingPath .ge t) = .ok [comparison .ge (.text "caf\u00e9 \"(x)\" y")] := by
  have hscalar : Scalar spaced (.text "caf\u00e9 \"(x)\" y") := .text fun _ => by decide
  obtain ⟨t, hwrite, hread, -⟩ := comparison_read hscalar .ge
  exact ⟨hscalar, t, hwrite, hread (by decide)⟩

/-- One escaped quote leaves the scanner in a quote, and it does not find the bracket. -/
theorem comparison_unread :
    ¬ ∀ (v : Value) (op : Comparison), Scalar spaced v →
      ∃ t, write spaced v = .ok t ∧ parse (comparingPath op t) = .ok [comparison op v] := by
  intro hall
  obtain ⟨t, hwrite, hread⟩ := hall (.text "a\"b") .eq (.text fun _ => by decide)
  obtain ⟨e, hrefused⟩ := parse_of_not_enclosed .eq spaced (s := "a\"b") (by decide)
  rw [write] at hwrite
  obtain rfl := Except.ok.inj hwrite
  rw [hrefused] at hread
  cases hread

end ApiJourney.Query
