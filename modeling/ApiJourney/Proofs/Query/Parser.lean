-- SUMMARY: What reading a query gives, and the faults that it can end with.
import ApiJourney.Proofs.Query.Pieces

/-!
# Queries that are read

The names in a query are parts of its text. A text that is no query is refused with a message,
but for two kinds of text: those with more digits in a row than an integer may have, and those
that nest deeper than what is followed in any place, in literals or with their filters.
-/

namespace ApiJourney

open Text

/-! ## Names -/

mutual

/-- All names in a selector have a property. -/
def Selector.AllNames (P : String → Prop) : Selector → Prop
  | .members ms => ∀ k, .name k ∈ ms → P k
  | .filter q _ => Query.AllNames P q
  | .descend s => s.AllNames P
  | _ => True

def Query.AllNames (P : String → Prop) : List Selector → Prop
  | [] => True
  | s :: rest => s.AllNames P ∧ Query.AllNames P rest

end

namespace Query

/-! ## Sources -/

/-- A text that is made of parts of a source: where it has too many digits in a row, or nests too
    deeply, the source does. -/
structure Within (source cs : List Char) : Prop where
  digits : Numeral.LongDigits cs → Numeral.LongDigits source
  deep : Json.HoldsDeep cs → Json.HoldsDeep source

namespace Within

variable {source cs part : List Char}

theorem self (source : List Char) : Within source source := ⟨id, id⟩

theorem of_infix (h : Within source cs) (hpart : part <:+: cs) : Within source part :=
  ⟨fun hlong => h.digits (hlong.mono hpart), fun hdeep => h.deep (hdeep.mono hpart)⟩

/-- The sign of the root in front neither is a digit nor opens a container. -/
theorem root (h : Within source cs) : Within source ('$' :: cs) :=
  ⟨fun hlong => h.digits (HasRun.of_cons (by decide) hlong), fun hdeep => h.deep (hdeep.of_cons rfl)⟩

end Within

/-- Why a query may fail otherwise than with a message: too many digits in a row, more filters
    than are followed one within the other, or a part that nests too deeply. -/
def Fails (source : List Char) (f : Fault) : Prop :=
  f = .badValue ∧ Numeral.LongDigits source ∨
    f = .tooDeep ∧ (plainNesting < source.count '(' ∨ Json.HoldsDeep source)

def FailsQuery (source : List Char) : QueryFailure → Prop
  | .error _ => True
  | .fault f => Fails source f

/-! ## Literals and members -/

section Parts

variable {source cs : List Char}

theorem position_ensures (h : Within source cs) (hcs : isIntegerText cs = true) :
    Ensures (position cs) (fun _ => True) (FailsQuery source) :=
  ((integerOf_ensures hcs).imp (fun _ h => h) fun _ hf => .inl ⟨hf.1, h.digits hf.2⟩).mapError

theorem literal_ensures (h : Within source cs) :
    Ensures (literal cs) (fun _ => True) (FailsQuery source) := by
  have hread := Json.read_ensures (trim cs)
  unfold literal
  dsimp only
  split
  · trivial
  · split
    · trivial
    · next f hf =>
      have hcause := hread.of_error hf
      split
      · trivial
      · next hvalue =>
        obtain ⟨hdeep, hnesting⟩ := hcause.resolve_left hvalue
        have hholds : Json.HoldsDeep (trim cs) :=
          ⟨trim cs, List.infix_rfl, Nat.lt_trans (by decide) hnesting⟩
        exact .inr ⟨hdeep, .inr ((h.of_infix (trim_isInfix cs)).deep hholds)⟩

theorem sliceBound_ensures (path : String) (h : Within source cs) :
    Ensures (sliceBound path cs) (fun _ => True) (FailsQuery source) := by
  unfold sliceBound
  dsimp only
  split_ifs with _ hinteger
  · trivial
  · exact (position_ensures (h.of_infix (trim_isInfix cs)) hinteger).map
  · trivial

theorem slice_ensures (path : String) (h : Within source cs) :
    Ensures (slice path cs) (fun s => s.AllNames fun k => Within source k.toList)
      (FailsQuery source) := by
  unfold slice
  dsimp only
  split
  · trivial
  · have hbounds := Ensures.mapM fun piece hpiece =>
      sliceBound_ensures path (h.of_infix ((splitOn_isInfix ':' cs).2 piece hpiece))
    refine hbounds.bind fun bounds _ => ?_
    split_ifs <;> trivial

theorem member_ensures (path : String) (content : List Char) (h : Within source cs) :
    Ensures (member path content cs) (fun m => ∀ k, m = .name k → Within source k.toList)
      (FailsQuery source) := by
  have htrim := h.of_infix (trim_isInfix cs)
  unfold member
  dsimp only
  split
  · trivial
  · split_ifs with _ hinteger
    · rintro _ ⟨rfl⟩
      rw [String.toList_ofList]
      cases hquoted : unquoted? (trim cs) with
      | none => exact htrim
      | some part => exact htrim.of_infix (unquoted?_isInfix hquoted)
    · exact ((position_ensures htrim hinteger).imp (fun _ _ _ hk => nomatch hk) fun _ hf => hf).map
    · rintro _ ⟨rfl⟩
      rwa [String.toList_ofList]

end Parts

/-! ## Queries -/

/-- What readers with some fuel make of texts within a source: names within it, or a failure
    that the source explains. -/
structure Parses (source : List Char) (fuel : Nat) : Prop where
  query : ∀ text, Within source text →
    Ensures (parseWith fuel text) (AllNames fun k => Within source k.toList) (FailsQuery source)
  selectors : ∀ path pos cs, Within source cs →
    Ensures (selectors fuel path pos cs) (AllNames fun k => Within source k.toList)
      (FailsQuery source)
  bracketed : ∀ path pos inner wrap, Within source inner →
    (∀ s : Selector, s.AllNames (fun k => Within source k.toList) →
      (wrap s).AllNames fun k => Within source k.toList) →
    Ensures (bracketed fuel path pos inner wrap) (AllNames fun k => Within source k.toList)
      (FailsQuery source)

section Steps

variable {source : List Char} {fuel : Nat}

theorem named_allNames {cs : List Char} (h : Within source cs) :
    (named cs).AllNames fun k => Within source k.toList := by
  intro k hk
  obtain rfl : k = String.ofList cs := by simpa using hk
  rwa [String.toList_ofList]

theorem Parses.more (h : Parses source fuel) (path : String) (pos : Nat) {cs : List Char}
    {s : Selector} (hcs : Within source cs)
    (hs : s.AllNames fun k => Within source k.toList) :
    Ensures (do let more ← Query.selectors fuel path pos cs; .ok (s :: more))
      (AllNames fun k => Within source k.toList) (FailsQuery source) :=
  (h.selectors path pos cs hcs).bind fun _ hmore => ⟨hs, hmore⟩

theorem bracket_ensures (path : String) {content : List Char} (h : Within source content)
    (hfilter : ∀ expression, Within source expression →
      Ensures (filter fuel path expression) (fun s => s.AllNames fun k => Within source k.toList)
        (FailsQuery source)) :
    Ensures (bracket fuel path content) (fun s => s.AllNames fun k => Within source k.toList)
      (FailsQuery source) := by
  have htrim := h.of_infix (trim_isInfix content)
  rw [bracket]
  split
  · trivial
  · trivial
  · next rest hrest =>
    split
    · next inner hinner =>
      split_ifs
      · refine hfilter _ (htrim.of_infix ?_)
        -- The expression of a filter lies between the round brackets, within the trimmed content.
        have hparts : inner.dropLast <:+: trim rest := by
          rw [hinner]
          exact (List.dropLast_prefix inner).isInfix.trans (List.suffix_cons _ _).isInfix
        rw [hrest]
        exact (hparts.trans (trim_isInfix rest)).trans (List.suffix_cons _ _).isInfix
      · trivial
    · trivial
  · split
    · trivial
    · next part parts hsplit =>
      have hpieces := splitUnquoted_isInfix ',' none (trim content)
      rw [hsplit] at hpieces
      split_ifs
      · exact slice_ensures path htrim
      · refine (Ensures.mapM fun piece hpiece => member_ensures path (trim content)
          (htrim.of_infix ?_)).bind ?_
        · rcases List.mem_cons.1 hpiece with rfl | hpiece
          · exact hpieces.1.isInfix
          · exact hpieces.2 piece hpiece
        · exact fun ms hms k hk => hms _ hk k rfl

theorem Parses.of_parts
    (hfilter : ∀ path expression, Within source expression →
      Ensures (filter fuel path expression) (fun s => s.AllNames fun k => Within source k.toList)
        (FailsQuery source))
    (hselectors : ∀ path pos cs, Within source cs →
      Ensures (Query.selectors fuel path pos cs) (AllNames fun k => Within source k.toList)
        (FailsQuery source)) : Parses source fuel where
  selectors := hselectors
  query text h := by
    have htrim := h.of_infix (trim_isInfix text)
    rw [parseWith]
    dsimp only
    split
    · trivial
    · next rest hrest =>
      exact hselectors _ _ _ (htrim.of_infix (hrest ▸ List.suffix_cons _ _).isInfix)
    · split_ifs
      · exact hselectors _ _ _ htrim
      · trivial
      · refine (hselectors _ _ _ (htrim.of_infix (List.dropWhile_suffix _).isInfix)).bind ?_
        exact fun more hmore =>
          ⟨named_allNames (htrim.of_infix (List.takeWhile_prefix _).isInfix), hmore⟩
  bracketed path pos inner wrap h hwrap := by
    rw [Query.bracketed]
    split
    · trivial
    · trivial
    · next content rest hclosing =>
      have hinner := closing_append hclosing
      have hcontent : Within source content := h.of_infix ⟨[], ']' :: rest, by simpa using hinner⟩
      have hrest : Within source rest :=
        h.of_infix ⟨content ++ [']'], [], by simpa using hinner⟩
      exact (bracket_ensures path hcontent (hfilter path)).bind fun s hs =>
        (hselectors _ _ _ hrest).bind fun more hmore => ⟨hwrap s hs, hmore⟩

theorem Parses.selectors_succ (h : Parses source fuel) (path : String) (pos : Nat)
    {cs : List Char} (hcs : Within source cs) :
    Ensures (Query.selectors (fuel + 1) path pos cs) (AllNames fun k => Within source k.toList)
      (FailsQuery source) := by
  have hbehind : ∀ {c rest}, cs = c :: rest → Within source rest := by
    rintro c rest rfl
    exact hcs.of_infix (List.suffix_cons _ _).isInfix
  have hname : ∀ {rest : List Char},
      Within source rest → Within source (rest.takeWhile isNameChar) :=
    fun h => h.of_infix (List.takeWhile_prefix _).isInfix
  have hleft : ∀ {rest : List Char},
      Within source rest → Within source (rest.dropWhile isNameChar) :=
    fun h => h.of_infix (List.dropWhile_suffix _).isInfix
  -- Every text that is read on is a part of `cs`, and names are parts of what is read.
  unfold Query.selectors
  split
  · trivial
  · trivial
  · next n rest hfuel =>
    obtain rfl := Nat.succ.inj hfuel
    have hrest : Within source rest := hcs.of_infix ⟨['.', '.'], [], by simp⟩
    split
    · trivial
    · exact h.bracketed _ _ _ _ (hrest.of_infix (List.suffix_cons _ _).isInfix) fun s hs => hs
    · exact h.more _ _ (hrest.of_infix (List.suffix_cons _ _).isInfix)
        (s := .descend .wildcard) trivial
    · dsimp only
      split_ifs
      · trivial
      · exact h.more _ _ (hleft hrest) (s := .descend (named _)) (named_allNames (hname hrest))
  · next n rest _ hfuel =>
    obtain rfl := Nat.succ.inj hfuel
    have hrest := hbehind rfl
    split
    · exact h.more _ _ (hrest.of_infix (List.suffix_cons _ _).isInfix) (s := .wildcard) trivial
    · dsimp only
      split_ifs
      · trivial
      · exact h.more _ _ (hleft hrest) (named_allNames (hname hrest))
  · next n inner hfuel =>
    obtain rfl := Nat.succ.inj hfuel
    exact h.bracketed _ _ _ _ (hbehind rfl) fun s hs => hs
  · trivial

theorem Parses.filter_succ (h : Parses source fuel) (path : String) {expression : List Char}
    (he : Within source expression) :
    Ensures (Query.filter (fuel + 1) path expression)
      (fun s => s.AllNames fun k => Within source k.toList) (FailsQuery source) := by
  unfold Query.filter
  split
  · next n relative test hfuel hparts =>
    obtain rfl := Nat.succ.inj hfuel
    obtain ⟨hrelative, htest⟩ := filterParts?_isInfix hparts
    refine (h.query _ (he.of_infix hrelative).root).bind fun q hq => ?_
    split
    · exact hq
    · exact (literal_ensures (he.of_infix (htest _ rfl))).bind fun v _ => hq
  · trivial

end Steps

theorem parses (source : List Char) (fuel : Nat) : Parses source fuel := by
  induction fuel with
  | zero =>
    refine .of_parts (fun path e h => ?_) (fun path pos cs h => ?_)
    · unfold filter
      trivial
    · cases cs <;> rw [selectors] <;> trivial
  | succ fuel ih =>
    exact .of_parts (fun path _ he => ih.filter_succ path he) fun path pos _ hcs =>
      ih.selectors_succ path pos hcs

/-- A text that is read is a query whose names are within it, and one that is not read is
    refused with a message, or has too many digits in a row or nests too deeply. -/
theorem parse_ensures (text : String) :
    Ensures (parse text) (AllNames fun k => Within text.toList k.toList)
      (FailsQuery text.toList) :=
  (parses text.toList (text.length + 1)).query text.toList (Within.self _)

end Query

end ApiJourney
