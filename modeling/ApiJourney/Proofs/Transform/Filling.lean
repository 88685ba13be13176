-- SUMMARY: The check of a template bounds the pieces of the text that it is filled to.
import ApiJourney.Proofs.Number.Numeral
import ApiJourney.Proofs.Outcome
import ApiJourney.Transform.Format

/-!
# Filled templates

The check of a template looks for percent signs, skips a key in parentheses behind each, and
refuses sizes that are too large. It reads keys in a simpler way than they are read when the
template is filled: where another parenthesis opens inside of a key, or one stands behind two
percent signs, it looks for sizes in the wrong place. Everywhere else each piece of the filled
text is a character as it stands, or a converted value that is padded to a width within the limit.
-/

namespace ApiJourney.Transform

open Text

/-! ## Rests -/

/-- Other characters than percent signs stand in front of a rest. -/
def Skips (cs rest : List Char) : Prop :=
  ∃ front, cs = front ++ rest ∧ '%' ∉ front

namespace Skips

theorem refl (cs : List Char) : Skips cs cs := ⟨[], rfl, List.not_mem_nil⟩

theorem trans {cs ds rest : List Char} : Skips cs ds → Skips ds rest → Skips cs rest := by
  rintro ⟨front, rfl, hfront⟩ ⟨front', rfl, hfront'⟩
  refine ⟨front ++ front', (List.append_assoc _ _ _).symm, ?_⟩
  rw [List.mem_append]
  exact not_or.2 ⟨hfront, hfront'⟩

theorem cons {c : Char} (hc : '%' ≠ c) (rest : List Char) : Skips (c :: rest) rest :=
  ⟨[c], rfl, by simpa using hc⟩

theorem dropWhile {p : Char → Bool} (hp : p '%' = false) (cs : List Char) :
    Skips cs (cs.dropWhile p) := by
  refine ⟨cs.takeWhile p, List.takeWhile_append_dropWhile.symm, fun hmem => ?_⟩
  exact absurd (List.mem_takeWhile_imp hmem) (by simp [hp])

theorem suffix {cs rest : List Char} : Skips cs rest → rest <:+ cs :=
  fun ⟨front, hcs, _⟩ => ⟨front, hcs.symm⟩

end Skips

/-! ## Sizes -/

theorem sizeAt_skips {cs size rest : List Char} (h : sizeAt cs = some (size, rest)) :
    Skips cs rest := by
  unfold sizeAt at h
  split at h
  · cases h
    exact .cons (by decide) _
  · dsimp only at h
    split_ifs at h
    cases h
    exact .dropWhile (by decide) _

theorem skipKey_suffix (cs : List Char) : skipKey cs <:+ cs := by
  unfold skipKey
  split
  · split_ifs
    · exact ((List.drop_suffix _ _).trans (List.dropWhile_suffix _)).trans (List.suffix_cons _ _)
    · exact List.suffix_refl _
  · exact List.suffix_refl _

theorem skipKey_of_ne {cs : List Char} (h : ∀ rest, cs ≠ '(' :: rest) : skipKey cs = cs := by
  unfold skipKey
  split
  · exact absurd rfl (h _)
  · rfl

/-- A precision is read behind a dot. -/
theorem precision_skips (cs cs₁ : List Char) (width : List (List Char)) :
    Skips cs cs₁ → Skips cs (match cs₁ with
      | '.' :: rest =>
        match sizeAt rest with
        | some (p, rest) => (width ++ [p], rest)
        | none => (width, cs₁)
      | cs => (width, cs) : List (List Char) × List Char).2 := by
  intro h
  split
  · next rest =>
    split
    · next p rest' hsize => exact (h.trans (.cons (by decide) _)).trans (sizeAt_skips hsize)
    · exact h
  · exact h

/-- Behind the key, the check passes over other characters than percent signs. -/
theorem sizesAt_skips (cs : List Char) : Skips (skipKey cs) (sizesAt cs).2 := by
  have hflags : Skips (skipKey cs) ((skipKey cs).dropWhile isFlag) := .dropWhile (by decide) _
  unfold sizesAt
  dsimp only
  cases hsize : sizeAt ((skipKey cs).dropWhile isFlag) with
  | none => exact precision_skips _ _ [] hflags
  | some found => exact precision_skips _ _ [found.1] (hflags.trans (sizeAt_skips hsize))

theorem mem_sizesAt {cs size rest : List Char}
    (h : sizeAt ((skipKey cs).dropWhile isFlag) = some (size, rest)) : size ∈ (sizesAt cs).1 := by
  unfold sizesAt
  dsimp only
  rw [h]
  dsimp only
  split
  · split
    · exact List.mem_append_left _ List.mem_cons_self
    · exact List.mem_cons_self
  · exact List.mem_cons_self

/-! ## Checked templates -/

/-- All sizes that the check finds in a template are small. -/
def Checked (cs : List Char) : Prop :=
  ∃ fuel, cs.length < fuel ∧ ∀ size ∈ templateSizes fuel cs, checkSize size = .ok ()

theorem checked_of_checkTemplate {cs : List Char} (h : checkTemplate cs = .ok ()) : Checked cs :=
  ⟨cs.length + 1, Nat.lt_succ_self _, forM_eq_ok.1 h⟩

namespace Checked

variable {cs rest : List Char}

theorem cons_iff {c : Char} (hc : '%' ≠ c) : Checked (c :: cs) ↔ Checked cs := by
  have hstep : ∀ fuel, templateSizes (fuel + 1) (c :: cs) = templateSizes fuel cs := by
    intro fuel
    rw [templateSizes, if_neg (by simpa using hc.symm)]
  constructor
  · rintro ⟨fuel, hfuel, h⟩
    obtain ⟨fuel, rfl⟩ : ∃ n, fuel = n + 1 := Nat.exists_eq_add_one.2 (by omega)
    rw [hstep] at h
    exact ⟨fuel, by simpa using hfuel, h⟩
  · rintro ⟨fuel, hfuel, h⟩
    exact ⟨fuel + 1, by simpa using hfuel, by rwa [hstep]⟩

theorem skips_iff (h : Skips cs rest) : Checked cs ↔ Checked rest := by
  obtain ⟨front, rfl, hfront⟩ := h
  induction front with
  | nil => rfl
  | cons c front ih =>
    rw [List.mem_cons, not_or] at hfront
    exact (cons_iff hfront.1).trans (ih hfront.2)

/-- Behind a percent sign the sizes are small, and what follows the key is checked too. -/
theorem of_percent (h : Checked ('%' :: cs)) :
    (∀ size ∈ (sizesAt cs).1, checkSize size = .ok ()) ∧ Checked (skipKey cs) := by
  obtain ⟨fuel, hfuel, h⟩ := h
  obtain ⟨fuel, rfl⟩ : ∃ n, fuel = n + 1 := Nat.exists_eq_add_one.2 (by omega)
  rw [templateSizes, if_pos (beq_self_eq_true '%'), List.forall_mem_append] at h
  have hshort := ((sizesAt_skips cs).suffix.trans (skipKey_suffix cs)).length_le
  rw [List.length_cons] at hfuel
  exact ⟨h.1, (skips_iff (sizesAt_skips cs)).2 ⟨fuel, by omega, h.2⟩⟩

end Checked

/-! ## Keys -/

theorem keyText?_plain {cs key left : List Char} (h : keyText? 0 cs = some (key, left))
    (hkey : '(' ∉ key) : cs = key ++ ')' :: left ∧ ')' ∉ key := by
  induction cs generalizing key with
  | nil => cases h
  | cons c cs ih =>
    rw [keyText?] at h
    split_ifs at h with hclose hopen
    · cases h
      rw [beq_iff_eq] at hclose
      exact ⟨by rw [hclose]; rfl, List.not_mem_nil⟩
    · obtain ⟨⟨k, r⟩, -, heq⟩ := Option.map_eq_some_iff.1 h
      cases heq
      rw [beq_iff_eq] at hopen
      exact absurd (hopen ▸ List.mem_cons_self) hkey
    · obtain ⟨⟨k, r⟩, hk, heq⟩ := Option.map_eq_some_iff.1 h
      cases heq
      rw [List.mem_cons, not_or] at hkey
      obtain ⟨rfl, hplain⟩ := ih hk hkey.2
      refine ⟨rfl, ?_⟩
      rw [List.mem_cons, not_or]
      exact ⟨fun heq => hclose (beq_iff_eq.2 heq.symm), hplain⟩

/-- A key in which no parenthesis opens is skipped as it is read. -/
theorem skipKey_plain {cs key left : List Char} (h : keyText? 0 cs = some (key, left))
    (hkey : '(' ∉ key) : skipKey ('(' :: cs) = left := by
  obtain ⟨rfl, hplain⟩ := keyText?_plain h hkey
  have hall : ∀ c ∈ key, (c != ')') = true := fun c hc => by
    rw [bne_iff_ne]
    rintro rfl
    exact hplain hc
  rw [skipKey, if_pos (by simp), List.dropWhile_append_of_pos hall,
    List.dropWhile_cons_of_neg (by simp), List.drop_one, List.tail_cons]

/-! ## Widths -/

theorem checkSize_star : checkSize ['*'] ≠ .ok () := by decide

/-- The digits of a width stand for no more than the size that is checked in their place. -/
theorem digitsValue_le_of_sizeAt {cs : List Char} (hstar : ∀ rest, cs = '*' :: rest → False)
    (h : ∀ size rest, sizeAt cs = some (size, rest) → checkSize size = .ok ()) :
    digitsValue (cs.takeWhile isFormatDigit) ≤ maxItems := by
  have hascii : ∀ c ∈ cs.takeWhile isFormatDigit, isAsciiDigit c = true :=
    fun c hc => List.mem_takeWhile_imp hc
  -- The check also takes digits of other scripts, which may follow.
  have hdecimal : cs.takeWhile isDecimal = cs.takeWhile isFormatDigit
      ++ (cs.dropWhile isFormatDigit).takeWhile isDecimal := by
    conv_lhs => rw [← List.takeWhile_append_dropWhile (p := isFormatDigit) (l := cs)]
    exact List.takeWhile_append_of_pos fun c hc => isDecimal_of_isAsciiDigit (hascii c hc)
  by_cases hempty : cs.takeWhile isDecimal = []
  · rw [hempty, eq_comm, List.append_eq_nil_iff] at hdecimal
    rw [hdecimal.1]
    exact Nat.zero_le _
  · have hsize : sizeAt cs = some (cs.takeWhile isDecimal, cs.dropWhile isDecimal) := by
      unfold sizeAt
      split
      · next rest => exact (hstar rest rfl).elim
      · exact if_neg (by rwa [List.isEmpty_iff])
    have hchecked := h _ _ hsize
    have hall : ∀ c ∈ cs.takeWhile isDecimal, isDecimal c = true :=
      fun c hc => List.mem_takeWhile_imp hc
    rw [hdecimal] at hchecked hall
    unfold checkSize at hchecked
    split_ifs at hchecked
    split at hchecked
    · next n hn =>
      have hle := Numeral.ofDigits_le_of_integer? hascii hall hn
      split_ifs at hchecked with hlarge
      exact Int.ofNat_le.1 (Int.le_trans hle (Int.not_lt.1 hlarge))
    · cases hchecked

/-- A width that is filled in is none that the check refuses. -/
theorem width_le_of_checked {cs : List Char}
    (h : ∀ size ∈ (sizesAt cs).1, checkSize size = .ok ()) {p p' : Place} {supply supply' : Supply}
    {rest : List Char}
    (hwidth : placeWidth p supply ((skipKey cs).dropWhile isFlag) = .ok (p', supply', rest)) :
    p'.width ≤ maxItems ∧ Skips ((skipKey cs).dropWhile isFlag) rest := by
  have hsize : ∀ size rest, sizeAt ((skipKey cs).dropWhile isFlag) = some (size, rest) →
      checkSize size = .ok () := fun size rest hat => h size (mem_sizesAt hat)
  generalize (skipKey cs).dropWhile isFlag = cs at hsize hwidth
  unfold placeWidth at hwidth
  split at hwidth
  · exact absurd (hsize _ _ rfl) checkSize_star
  · next hstar =>
    dsimp only at hwidth
    split_ifs at hwidth
    cases hwidth
    refine ⟨?_, .dropWhile (by decide) _⟩
    exact digitsValue_le_of_sizeAt hstar hsize

/-! ## Places -/

theorem placePrecision_skips {p p' : Place} {supply supply' : Supply} {cs rest : List Char}
    (h : placePrecision p supply cs = .ok (p', supply', rest)) :
    p'.width = p.width ∧ Skips cs rest := by
  unfold placePrecision at h
  split at h
  · obtain ⟨⟨n, supply₁⟩, -, h⟩ := bind_eq_ok.1 h
    cases h
    exact ⟨rfl, (Skips.cons (by decide) _).trans (.cons (by decide) _)⟩
  · dsimp only at h
    split_ifs at h
    cases h
    exact ⟨rfl, (Skips.cons (by decide) _).trans (.dropWhile (by decide) _)⟩
  · cases h
    exact ⟨rfl, .refl _⟩

theorem skipLength_skips (cs : List Char) : Skips cs (skipLength cs) := by
  unfold skipLength
  split
  · next c rest =>
    split_ifs with hletter
    · refine .cons ?_ rest
      rintro rfl
      exact absurd hletter (by decide)
    · exact .refl _
  · exact .refl _

/-- No value is converted by a percent sign. -/
theorem convert_ne_percent {f : Filling} {p : Place} {conversion : Char} {v : Value}
    {converted : List Char × Bool} (h : convert f p conversion v = .ok converted) :
    '%' ≠ conversion := by
  rintro rfl
  cases h

/-- A converted value is padded to the width of its place, or longer than that. -/
theorem Place.width_le_length_fill (p : Place) (conversion : Char) (body : List Char)
    (signed : Bool) : p.width ≤ (p.fill conversion body signed).length := by
  unfold Place.fill
  dsimp only
  split_ifs <;> simp only [List.length_append, List.length_replicate] <;> omega

/-- A place that is filled has no key, or one that is closed. -/
theorem pieceAt_eq_ok {f : Filling} {args : Value} {supply : Supply} {cs : List Char}
    {read : Piece × Supply × List Char} (h : pieceAt f args supply cs = .ok read) :
    ∃ supply₁ cs₁, sizedPiece f supply₁ cs₁ = .ok read ∧
      ((∀ rest, cs ≠ '(' :: rest) ∧ cs₁ = cs ∨
        ∃ rest key, cs = '(' :: rest ∧ keyText? 0 rest = some (key, cs₁)) := by
  unfold pieceAt at h
  split at h
  · next rest =>
    split_ifs at h
    split at h
    · cases h
    · next key left hkey =>
      obtain ⟨v, -, h⟩ := bind_eq_ok.1 h
      exact ⟨_, left, h, .inr ⟨rest, key, rfl, hkey⟩⟩
  · next hopen => exact ⟨supply, cs, h, .inl ⟨fun rest hcs => hopen rest hcs, rfl⟩⟩

/-! ## Pieces -/

/-- The width that a piece is padded to. -/
def Piece.width : Piece → Nat
  | .character _ => 0
  | .converted place _ _ _ => place.width

theorem Piece.width_le_length (piece : Piece) : piece.width ≤ piece.chars.length := by
  cases piece with
  | character c => exact Nat.zero_le _
  | converted place conversion body signed => exact place.width_le_length_fill conversion body signed

/-- Where the check reads a template otherwise than it is filled: in a key inside of which another
    parenthesis opens, and where one stands behind two percent signs. -/
inductive Misread (cs : List Char) : Prop where
  | nested {rest key left : List Char} :
      '%' :: '(' :: rest <:+ cs → keyText? 0 rest = some (key, left) → '(' ∈ key → Misread cs
  | doubled {rest : List Char} : '%' :: '%' :: '(' :: rest <:+ cs → Misread cs

theorem Misread.of_suffix {cs ds : List Char} (h : Misread ds) (hds : ds <:+ cs) : Misread cs := by
  cases h with
  | nested hrest hkey hopen => exact .nested (hrest.trans hds) hkey hopen
  | doubled hrest => exact .doubled (hrest.trans hds)

/-- A place whose sizes are checked is no wider than the limit. -/
theorem width_le_of_sizedPiece {supply supply' : Supply} {cs rest : List Char} {piece : Piece}
    (hsizes : ∀ size ∈ (sizesAt cs).1, checkSize size = .ok ())
    (h : sizedPiece .text supply (skipKey cs) = .ok (piece, supply', rest)) :
    piece.width ≤ maxItems ∧ Skips (skipKey cs) rest := by
  obtain ⟨⟨p₁, supply₁, cs₁⟩, hwidth, h⟩ := bind_eq_ok.1 h
  obtain ⟨⟨p, supply₂, cs₂⟩, hprecision, h⟩ := bind_eq_ok.1 h
  obtain ⟨hwidth, hskips⟩ := width_le_of_checked hsizes hwidth
  obtain ⟨hsame, hskips'⟩ := placePrecision_skips hprecision
  have hbehind : Skips (skipKey cs) (skipLength cs₂) :=
    ((Skips.dropWhile (by decide) _).trans hskips).trans (hskips'.trans (skipLength_skips cs₂))
  dsimp only at h
  split at h
  · cases h
  · next conversion rest' hlength =>
    obtain ⟨⟨v, supply₃⟩, -, h⟩ := bind_eq_ok.1 h
    obtain ⟨⟨body, signed⟩, hconvert, h⟩ := bind_eq_ok.1 h
    cases h
    rw [hlength] at hbehind
    exact ⟨hsame.trans_le hwidth, hbehind.trans (.cons (convert_ne_percent hconvert) rest)⟩

/-- Where the check does not misread a place, it is no wider than the limit, and what is left is
    checked. -/
theorem width_le_of_pieceAt {args : Value} {supply supply' : Supply} {cs rest : List Char}
    {piece : Piece} (hread : ¬ Misread ('%' :: cs)) (hchecked : Checked ('%' :: cs))
    (h : pieceAt .text args supply cs = .ok (piece, supply', rest)) :
    piece.width ≤ maxItems ∧ Checked rest ∧ rest <:+ cs := by
  obtain ⟨hsizes, hchecked⟩ := hchecked.of_percent
  obtain ⟨supply₁, cs₁, hsized, hkey⟩ := pieceAt_eq_ok h
  obtain rfl : cs₁ = skipKey cs := by
    rcases hkey with ⟨hopen, rfl⟩ | ⟨rest, key, rfl, hkey⟩
    · exact (skipKey_of_ne hopen).symm
    · exact (skipKey_plain hkey fun hopen => hread (.nested (List.suffix_refl _) hkey hopen)).symm
  obtain ⟨hwidth, hskips⟩ := width_le_of_sizedPiece hsizes hsized
  exact ⟨hwidth, (Checked.skips_iff hskips).1 hchecked, hskips.suffix.trans (skipKey_suffix cs)⟩

/-- Where the check misreads nothing, no piece is padded beyond the limit. -/
theorem width_le_of_piecesFrom {args : Value} {fuel : Nat} {supply : Supply} {cs : List Char}
    {ps : List Piece} (hread : ¬ Misread cs) (hchecked : Checked cs)
    (h : piecesFrom .text args fuel supply cs = .ok ps) : ∀ p ∈ ps, p.width ≤ maxItems := by
  induction fuel generalizing supply cs ps with
  | zero =>
    cases h
    exact nofun
  | succ fuel ih =>
    unfold piecesFrom at h
    split at h
    · contradiction
    · split_ifs at h
      cases h
      exact nofun
    · next rest hfuel =>
      obtain rfl := Nat.succ.inj hfuel
      obtain ⟨more, hmore, h⟩ := bind_eq_ok.1 h
      cases h
      -- Only one of the two percent signs is passed over, so the check looks behind the other.
      have hsecond : Checked ('%' :: rest) := hchecked.of_percent.2
      have hopen : ∀ r, rest ≠ '(' :: r := by
        rintro r rfl
        exact hread (.doubled (List.suffix_refl _))
      have hrest := hsecond.of_percent.2
      rw [skipKey_of_ne hopen] at hrest
      have hread' : ¬ Misread rest := fun hrest => hread (hrest.of_suffix ⟨['%', '%'], rfl⟩)
      exact List.forall_mem_cons.2 ⟨Nat.zero_le _, ih hread' hrest hmore⟩
    · next c rest _ hfuel =>
      obtain rfl := Nat.succ.inj hfuel
      have hread' : ∀ left, left <:+ rest → ¬ Misread left := fun left hleft hmisread =>
        hread (hmisread.of_suffix (hleft.trans (List.suffix_cons c rest)))
      split_ifs at h with hpercent
      · obtain rfl := beq_iff_eq.1 hpercent
        obtain ⟨⟨piece, supply', left⟩, hpiece, h⟩ := bind_eq_ok.1 h
        obtain ⟨more, hmore, h⟩ := bind_eq_ok.1 h
        cases h
        obtain ⟨hwidth, hleft, hsuffix⟩ := width_le_of_pieceAt hread hchecked hpiece
        exact List.forall_mem_cons.2 ⟨hwidth, ih (hread' _ hsuffix) hleft hmore⟩
      · obtain ⟨more, hmore, h⟩ := bind_eq_ok.1 h
        cases h
        have hleft := (Checked.cons_iff fun heq => hpercent (beq_iff_eq.2 heq.symm)).1 hchecked
        exact List.forall_mem_cons.2 ⟨Nat.zero_le _, ih (hread' _ (List.suffix_refl _)) hleft hmore⟩

/-- In a checked template that the check does not misread, no piece is padded beyond the limit. -/
theorem width_le_of_pieces {args : Value} {cs : List Char} {ps : List Piece} (hread : ¬ Misread cs)
    (hchecked : checkTemplate cs = .ok ()) (h : pieces .text cs args = .ok ps) :
    ∀ p ∈ ps, p.width ≤ maxItems :=
  width_le_of_piecesFrom hread (checked_of_checkTemplate hchecked) h

end ApiJourney.Transform
