-- SUMMARY: The faults that reading a regular expression can end with.
import ApiJourney.Pattern.Parser
import ApiJourney.Proofs.Number.Numeral
import ApiJourney.Proofs.Outcome
import Mathlib

/-!
# Expressions that are read

An expression is a pattern, or it is invalid, unless it contains a count of too many digits, a
count or a character code that is too large, options that contradict one another, or groups that
are nested too deeply. The reader takes one token after the other, so what it has taken is always
a part of the expression; that is the invariant all readers here keep.
-/

set_option mvcgen.warning false

namespace ApiJourney.Pattern

open Std.Do Text

/-! ## Faults -/

/-- A count that is too large. -/
def LargeCount (source : List Char) : Prop :=
  ∃ ds, ds <:+: source ∧ (∀ d ∈ ds, isAsciiDigit d = true) ∧ maxCount ≤ valueOf 10 ds

/-- An escape of a character by a code that is too large. -/
def LargeCode (source : List Char) : Prop :=
  ∃ ds, '\\' :: 'U' :: ds <:+: source ∧ ds.length = 8 ∧ (∀ d ∈ ds, isHex d = true) ∧
    codeLimit ≤ valueOf 16 ds

/-- An option is turned on for the whole expression: its letter stands among those behind a
    question mark that a closing parenthesis ends. -/
def TurnsOn (c : Char) (source : List Char) : Prop :=
  ∃ letters, '?' :: (letters ++ [')']) <:+: source ∧ c ∈ letters ∧ ∀ d ∈ letters, isOption d = true

theorem TurnsOn.mono {c : Char} {part source : List Char} (h : TurnsOn c part)
    (hpart : part <:+: source) : TurnsOn c source :=
  let ⟨letters, hletters, hmem, hoptions⟩ := h
  ⟨letters, hletters.trans hpart, hmem, hoptions⟩

/-- What an expression contains that reading it ends with a fault. The letters are those of the
    options that contradict one another. -/
def Breaks (source : List Char) (f : Fault) : Prop :=
  f = .badValue ∧ (Numeral.LongDigits source ∨ TurnsOn 'a' source ∧ TurnsOn 'u' source) ∨
    f = .overflow ∧ (LargeCount source ∨ LargeCode source) ∨
    f = .tooDeep ∧ plainNesting < source.count '('

theorem Breaks.mono {part source : List Char} {f : Fault} (h : Breaks part f)
    (hpart : part <:+: source) : Breaks source f := by
  rcases h with ⟨rfl, hlong | ⟨ha, hu⟩⟩ | ⟨rfl, ⟨ds, hds, hcount⟩ | ⟨ds, hds, hcode⟩⟩ | ⟨rfl, hdeep⟩
  · exact .inl ⟨rfl, .inl (hlong.mono hpart)⟩
  · exact .inl ⟨rfl, .inr ⟨ha.mono hpart, hu.mono hpart⟩⟩
  · exact .inr (.inl ⟨rfl, .inl ⟨ds, hds.trans hpart, hcount⟩⟩)
  · exact .inr (.inl ⟨rfl, .inr ⟨ds, hds.trans hpart, hcode⟩⟩)
  · exact .inr (.inr ⟨rfl, hdeep.trans_le (hpart.sublist.count_le '(')⟩)

def Explained (source : List Char) : Failure → Prop
  | .invalid _ => True
  | .fault f => Breaks source f

/-! ## Places -/

theorem tokens_chars (cs : List Char) : (tokens cs).flatMap Token.chars = cs := by
  fun_induction tokens cs <;> simp_all [Token.chars]

/-- The text that is left to read. -/
def Progress.left (s : Progress) : List Char :=
  s.rest.flatMap Token.chars

theorem Progress.left_eq_append {s : Progress} {t : Token} {rest : List Token}
    (ht : s.rest.head? = some t) (hrest : s.rest.drop 1 = rest) :
    s.left = t.chars ++ rest.flatMap Token.chars := by
  obtain ⟨ts, hts⟩ := List.head?_eq_some_iff.1 ht
  subst hrest
  simp [left, hts]

/-- An expression, and how many groups are open in it. -/
structure Place where
  source : List Char
  nesting : Nat

/-- The place one group further in. -/
abbrev Place.deeper (p : Place) : Place :=
  ⟨p.source, p.nesting + 1⟩

/-- What is left is an end of the source, the groups that are open have been opened before it,
    and the options of the whole expression are turned on by the source. -/
structure Inside (p : Place) (s : Progress) : Prop where
  left : s.left <:+ p.source
  nesting : p.nesting + s.left.count '(' ≤ p.source.count '('
  ascii : s.options.ascii = true → TurnsOn 'a' p.source
  unicode : s.unicode = true → TurnsOn 'u' p.source

namespace Inside

variable {p : Place} {s : Progress} {rest : List Token} {n : Nat}

theorem of_left (h : Inside p s) (hrest : rest.flatMap Token.chars <:+ s.left) :
    Inside p { s with rest := rest, position := n } where
  left := hrest.trans h.left
  nesting := (Nat.add_le_add_left (hrest.sublist.count_le '(') _).trans h.nesting
  ascii := h.ascii
  unicode := h.unicode

theorem advance (h : Inside p s) (hrest : s.rest.drop 1 = rest) :
    Inside p { s with rest := rest, position := n } := by
  refine h.of_left ?_
  subst hrest
  rw [Progress.left]
  cases s.rest with
  | nil => exact List.suffix_refl _
  | cons t ts => exact List.suffix_append _ _

/-- Groups, names and looks do not matter. -/
theorem congr {s' : Progress} (h : Inside p s) (hrest : s'.rest = s.rest)
    (hoptions : s'.options = s.options) (hunicode : s'.unicode = s.unicode) : Inside p s' where
  left := by simpa [Progress.left, hrest] using h.left
  nesting := by simpa [Progress.left, hrest] using h.nesting
  ascii := by simpa [hoptions] using h.ascii
  unicode := by simpa [hunicode] using h.unicode

/-- The token at the front and what is left behind it are an end of the source. -/
theorem left_of_head? {t : Token} (h : Inside p s) (ht : s.rest.head? = some t)
    (hrest : s.rest.drop 1 = rest) : t.chars ++ rest.flatMap Token.chars <:+ p.source :=
  Progress.left_eq_append ht hrest ▸ h.left

theorem turnOn {on : List Char} {template : Bool} (h : Inside p s)
    (hon : ∀ d ∈ on, TurnsOn d p.source) :
    Inside p { s with
      options := s.options.with (on.filter (· != 'u')) []
      unicode := s.unicode || on.contains 'u'
      template := template } where
  left := h.left
  nesting := h.nesting
  ascii := by
    have hold := h.ascii
    grind [Options.with]
  unicode := by
    have hold := h.unicode
    grind

/-- An opening parenthesis leads one group further in. -/
theorem goDeeper (h : Inside p s) (hc : s.rest.head? = some (.plain '('))
    (hrest : s.rest.drop 1 = rest) :
    Inside p.deeper { s with rest := rest, position := n } where
  left := (h.of_left (n := n) (Progress.left_eq_append hc hrest ▸ List.suffix_append _ _)).left
  nesting := by
    have hnesting := h.nesting
    rw [Progress.left_eq_append hc hrest, Token.chars, List.singleton_append,
      List.count_cons_self] at hnesting
    simpa [Progress.left] using by omega
  ascii := h.ascii
  unicode := h.unicode

theorem of_deeper (h : Inside p.deeper s) : Inside p s where
  left := h.left
  nesting := Nat.le_of_succ_le (by simpa [Nat.succ_add] using h.nesting)
  ascii := h.ascii
  unicode := h.unicode

end Inside

/-- A reader stays inside a place, or fails for what the source contains. -/
abbrev Keeps (p : Place) (x : Reader α) : Prop :=
  ⦃fun s => ⌜Inside p s⌝⦄ x
  ⦃post⟨fun _ s => ⌜Inside p s⌝, fun e => ⌜Explained p.source e⌝⟩⦄

/-! ## Tokens -/

section Readers

variable {p : Place}

@[spec]
theorem refuseAt_spec (position : Nat) (message : String)
    {Q : PostCond α (.arg Progress (.except Failure .pure))} :
    ⦃fun _ => Q.2.1 (.invalid ⟨message, some position⟩)⦄
    (refuseAt position message : Reader α) ⦃Q⦄ :=
  fun _ h => h

@[spec]
theorem refuse_spec (message : String) (back : Nat)
    {Q : PostCond α (.arg Progress (.except Failure .pure))} :
    ⦃fun s => Q.2.1 (.invalid ⟨message, some (s.position - back)⟩)⦄
    (refuse message back : Reader α) ⦃Q⦄ :=
  fun _ h => h

-- all refusals come down to the one above
attribute [spec] refuseEnd refuseName refuseEscape refuseRange refuseLetter refuseExtension

@[spec]
theorem advance_spec : Keeps p advance := by
  mvcgen [advance]
  next hs _ _ _ hrest => exact hs.advance hrest

@[spec]
theorem peek?_spec :
    ⦃fun s => ⌜Inside p s⌝⦄ peek?
    ⦃post⟨fun t s => ⌜Inside p s ∧ s.rest.head? = t⌝, fun e => ⌜Explained p.source e⌝⟩⦄ := by
  mvcgen [peek?]

/-- What was left begins with the token that is taken. -/
@[spec]
theorem take?_spec (before : Progress) :
    ⦃fun s => ⌜s = before ∧ Inside p s⌝⦄ take?
    ⦃post⟨fun r s => ⌜Inside p s ∧ ∀ t, r = some t →
        before.left = t.chars ++ s.left ∧ t.chars ++ s.left <:+ p.source⌝,
        fun e => ⌜Explained p.source e⌝⟩⦄ := by
  -- `advance` is opened here: only what it leaves tells what is behind the token
  mvcgen [take?, peek?, advance]
  · next hs _ _ _ _ _ hrest =>
    obtain ⟨rfl, hs⟩ := hs
    refine ⟨hs.advance hrest, fun t ht => ⟨?_, hs.left_of_head? ht hrest⟩⟩
    exact Progress.left_eq_append ht hrest
  · next hs _ hnone =>
    exact ⟨hs.2, fun t ht => absurd (ht ▸ rfl) hnone⟩

/-- What was left begins with the character that is skipped. -/
@[spec]
theorem skip?_spec (before : Progress) (c : Char) :
    ⦃fun s => ⌜s = before ∧ Inside p s⌝⦄ skip? c
    ⦃post⟨fun skipped s => ⌜Inside p s ∧ (skipped = true → before.left = c :: s.left)⌝,
        fun e => ⌜Explained p.source e⌝⟩⦄ := by
  mvcgen [skip?, peek?, advance]
  · next hs hc _ _ _ hrest =>
    obtain ⟨rfl, hs⟩ := hs
    exact ⟨hs.advance hrest, Progress.left_eq_append (beq_iff_eq.1 hc) hrest⟩
  · next hs _ => exact ⟨hs.2, nofun⟩

/-- What a run of characters is taken from begins with it. -/
theorem takeSome_left (ok : Char → Bool) (count : Nat) (before : Progress) :
    ⦃fun s => ⌜s = before⌝⦄ takeSome ok count
    ⦃post⟨fun cs s => ⌜before.left = cs ++ s.left ∧ (∀ c ∈ cs, ok c = true) ∧
        cs.length ≤ count ∧ s = { before with rest := s.rest, position := s.position }⌝,
        fun e => ⌜Explained p.source e⌝⟩⦄ := by
  induction count generalizing before with
  | zero =>
    mvcgen [takeSome]
    simp_all
  | succ count ih =>
    mvcgen [takeSome, peek?, advance, ih]
    · next hs c hc hok _ rest _ hrest cs s' hs' =>
      subst hs
      obtain ⟨hleft, hcs, hlength, hs'⟩ := hs'
      refine ⟨?_, List.forall_mem_cons.2 ⟨hok, hcs⟩, Nat.succ_le_succ hlength, hs'⟩
      rw [Progress.left_eq_append hc hrest, List.cons_append, ← hleft]
      rfl
    · simp_all
    · simp_all

/-- A run of characters is a part of the source. -/
@[spec]
theorem takeSome_spec (ok : Char → Bool) (count : Nat) :
    ⦃fun s => ⌜Inside p s⌝⦄ takeSome ok count
    ⦃post⟨fun cs s => ⌜Inside p s ∧ cs <:+: p.source ∧ ∀ c ∈ cs, ok c = true⌝,
        fun e => ⌜Explained p.source e⌝⟩⦄ := by
  mvcgen [takeSome_left]
  next s hs cs s' =>
    intro hleft hcs _ hs'
    rw [hs']
    have hsuffix : s'.left <:+ s.left := hleft ▸ List.suffix_append _ _
    have hinside : cs <:+: s.left := hleft ▸ (List.prefix_append _ _).isInfix
    exact ⟨hs.of_left hsuffix, hinside.trans hs.left.isInfix, hcs⟩

@[spec]
theorem takeAll_spec (ok : Char → Bool) :
    ⦃fun s => ⌜Inside p s⌝⦄ takeAll ok
    ⦃post⟨fun cs s => ⌜Inside p s ∧ cs <:+: p.source ∧ ∀ c ∈ cs, ok c = true⌝,
        fun e => ⌜Explained p.source e⌝⟩⦄ := by
  mvcgen [takeAll]

@[spec]
theorem nameUntil_spec (stop : Char) (what : String) (fuel : Nat) (acc : List Char) :
    Keeps p (nameUntil stop what fuel acc) := by
  induction fuel generalizing acc with
  | zero => mvcgen [nameUntil]
  | succ fuel ih => mvcgen [nameUntil, ih] <;> grind

@[spec]
theorem takeName_spec (stop : Char) (what : String) : Keeps p (takeName stop what) := by
  mvcgen [takeName]

@[spec]
theorem checkName_spec (name : List Char) : Keeps p (checkName name) := by
  mvcgen [checkName]

/-! ## Groups -/

@[spec]
theorem openGroup_spec (name : Option (List Char)) : Keeps p (openGroup name) := by
  mvcgen [openGroup]
  · next hs _ _ _ => exact hs.congr rfl rfl rfl
  · next hs _ _ _ _ _ => exact hs.congr rfl rfl rfl

@[spec]
theorem closeGroup_spec (index : Nat) (width : Width) : Keeps p (closeGroup index width) := by
  mvcgen [closeGroup]
  next hs _ => exact hs.congr rfl rfl rfl

@[spec]
theorem checkBehind_spec (index : Nat) : Keeps p (checkBehind index) := by
  mvcgen [checkBehind]

@[spec]
theorem groupAgain_spec (o : Options) (index back : Nat) :
    Keeps p (groupAgain o index back) := by
  mvcgen [groupAgain]

@[spec]
theorem namedGroup_spec (name : List Char) : Keeps p (namedGroup name) := by
  mvcgen [namedGroup]

/-! ## Escapes and sets -/

theorem valueOf_lt_pow (ds : List Char) : valueOf 16 ds < 16 ^ ds.length := by
  refine (Numeral.ofDigits_lt_pow ?_).trans_eq (by rw [List.length_map])
  exact List.forall_mem_map.2 fun c _ => Numeral.digitValue?_getD_lt (by decide) c

@[spec]
theorem codeEscape_spec (letter : Char) (ds : List Char) :
    ⦃fun s => ⌜Inside p s ∧ (codeLimit ≤ valueOf 16 ds → LargeCode p.source)⌝⦄
    codeEscape letter ds
    ⦃post⟨fun _ s => ⌜Inside p s⌝, fun e => ⌜Explained p.source e⌝⟩⦄ := by
  intro s ⟨hs, hlarge⟩
  unfold codeEscape
  dsimp only
  split_ifs with hcode
  · exact .inr (.inl ⟨rfl, .inr (hlarge hcode)⟩)
  · trivial
  · exact hs

/-- Only eight digits are a code that is too large. -/
@[spec]
theorem hexEscape_spec (letter : Char) (count : Nat)
    (hcount : 16 ^ count ≤ codeLimit ∨ letter = 'U' ∧ count = 8) :
    ⦃fun s => ⌜Inside p s ∧ '\\' :: letter :: s.left <:+ p.source⌝⦄ hexEscape letter count
    ⦃post⟨fun _ s => ⌜Inside p s⌝, fun e => ⌜Explained p.source e⌝⟩⦄ := by
  mvcgen [hexEscape, -takeSome_spec, takeSome_left]
  next s hs ds hcomplete s' hds =>
    obtain ⟨hleft, hhex, hlength, hs'⟩ := hds
    have hall : ds.length = count := by omega
    rw [hleft] at hs
    refine ⟨hs' ▸ hs.1.of_left (hleft ▸ List.suffix_append _ _), fun hlarge => ?_⟩
    rcases hcount with hsmall | ⟨rfl, rfl⟩
    · exact absurd (valueOf_lt_pow ds) (not_lt_of_ge (hall ▸ hsmall.trans hlarge))
    · exact ⟨ds, (List.prefix_append ('\\' :: 'U' :: ds) s'.left).isInfix.trans hs.2.isInfix, hall,
        hhex, hlarge⟩

@[spec]
theorem namedCharacter_spec : Keeps p namedCharacter := by
  mvcgen [namedCharacter]
  grind

@[spec]
theorem literalEscape_spec (c : Char) :
    ⦃fun s => ⌜Inside p s ∧ '\\' :: c :: s.left <:+ p.source⌝⦄ literalEscape c
    ⦃post⟨fun _ s => ⌜Inside p s⌝, fun e => ⌜Explained p.source e⌝⟩⦄ := by
  have hshort : 16 ^ 4 ≤ codeLimit := by decide
  mvcgen [literalEscape] <;> grind

@[spec]
theorem octalEscape_spec (ds : List Char) : Keeps p (octalEscape ds) := by
  mvcgen [octalEscape]

@[spec]
theorem classEscape_spec (o : Options) (c : Char) :
    ⦃fun s => ⌜Inside p s ∧ '\\' :: c :: s.left <:+ p.source⌝⦄ classEscape o c
    ⦃post⟨fun _ s => ⌜Inside p s⌝, fun e => ⌜Explained p.source e⌝⟩⦄ := by
  mvcgen [classEscape] <;> grind

@[spec]
theorem numberEscape_spec (o : Options) (c : Char) : Keeps p (numberEscape o c) := by
  mvcgen [numberEscape] <;> grind

@[spec]
theorem escape_spec (o : Options) (c : Char) :
    ⦃fun s => ⌜Inside p s ∧ '\\' :: c :: s.left <:+ p.source⌝⦄ escape o c
    ⦃post⟨fun _ s => ⌜Inside p s⌝, fun e => ⌜Explained p.source e⌝⟩⦄ := by
  mvcgen [escape] <;> grind

@[spec]
theorem tokenItem_spec (o : Options) (t : Token) :
    ⦃fun s => ⌜Inside p s ∧ t.chars ++ s.left <:+ p.source⌝⦄ tokenItem o t
    ⦃post⟨fun _ s => ⌜Inside p s⌝, fun e => ⌜Explained p.source e⌝⟩⦄ := by
  mvcgen [tokenItem]
  grind

@[spec]
theorem setItems_spec (start : Nat) (o : Options) (fuel : Nat) (acc : List ClassItem) :
    Keeps p (setItems start o fuel acc) := by
  induction fuel generalizing acc with
  | zero => mvcgen [setItems]
  | succ fuel ih => mvcgen [setItems, ih] <;> grind

@[spec]
theorem setNode_spec (o : Options) : Keeps p (setNode o) := by
  mvcgen [setNode]
  grind

/-! ## Repetitions -/

/-- Digits are a count unless they are too many or their value is too large. -/
@[spec]
theorem countOf_spec (ds : List Char) :
    ⦃fun s => ⌜Inside p s ∧ ds <:+: p.source ∧ ∀ d ∈ ds, isAsciiDigit d = true⌝⦄ countOf ds
    ⦃post⟨fun _ s => ⌜Inside p s⌝, fun e => ⌜Explained p.source e⌝⟩⦄ := by
  intro s ⟨hs, hds, hdigits⟩
  unfold countOf
  split_ifs with _ hlong
  · exact hs
  · exact .inl ⟨rfl, .inl ⟨ds, hds, hlong, fun d hd => isDecimal_of_isAsciiDigit (hdigits d hd)⟩⟩
  · dsimp only
    split_ifs with hlarge
    · exact .inr (.inl ⟨rfl, .inl ⟨ds, hds, hdigits, hlarge⟩⟩)
    · exact hs

@[spec]
theorem braces_spec : Keeps p braces := by
  mvcgen [braces] <;> grind

@[spec]
theorem counts_spec (c : Char) : Keeps p (counts c) := by
  mvcgen [counts]

@[spec]
theorem greed_spec : Keeps p greed := by
  mvcgen [greed] <;> grind

@[spec]
theorem repeatLast_spec (mark least : Nat) (most : Option Nat) (parts : List Part) :
    Keeps p (repeatLast mark least most parts) := by
  mvcgen [repeatLast]

/-! ## Options, comments and conditions -/

/-- Behind a question mark, option letters have been taken one after the other, the last one
    first, and then a character. -/
def Lettered (p : Place) (letters : List Char) (c : Char) (s : Progress) : Prop :=
  '?' :: (letters.reverse ++ c :: s.left) <:+ p.source ∧ ∀ d ∈ letters, isOption d = true

theorem Lettered.turnsOn {letters : List Char} {s : Progress} (h : Lettered p letters ')' s) :
    ∀ d ∈ letters, TurnsOn d p.source := by
  intro d hd
  refine ⟨letters.reverse, ?_, List.mem_reverse.2 hd, fun e he => h.2 e (List.mem_reverse.1 he)⟩
  have hfront : '?' :: (letters.reverse ++ [')']) <+: '?' :: (letters.reverse ++ ')' :: s.left) :=
    ⟨s.left, by simp⟩
  exact hfront.isInfix.trans h.1.isInfix

/-- The character behind the question mark. -/
theorem Lettered.first {c : Char} {s s' s'' : Progress} (h : Inside p s)
    (hmark : s.left = '?' :: s'.left) (hc : s'.left = (Token.plain c).chars ++ s''.left) :
    Lettered p [] c s'' := by
  refine ⟨?_, List.forall_mem_nil _⟩
  have hleft := h.left
  rw [hmark, hc] at hleft
  simpa [Token.chars] using hleft

/-- One more letter, and the character behind it. -/
theorem Lettered.next {letters : List Char} {c d : Char} {s s' : Progress}
    (h : Lettered p letters c s) (hc : isOption c = true)
    (hd : s.left = (Token.plain d).chars ++ s'.left) : Lettered p (c :: letters) d s' := by
  refine ⟨?_, List.forall_mem_cons.2 ⟨hc, h.2⟩⟩
  have hletters := h.1
  rw [hd] at hletters
  simpa [Token.chars] using hletters

/-- The letters that are turned on stand behind the question mark, and what ends them behind
    them. -/
@[spec]
theorem lettersOn_spec (fuel : Nat) (acc : List Char) (c : Char) :
    ⦃fun s => ⌜Inside p s ∧ Lettered p acc c s ∧ isOption c = true⌝⦄ lettersOn fuel acc c
    ⦃post⟨fun r s => ⌜Inside p s ∧ Lettered p r.1 r.2 s⌝,
        fun e => ⌜Explained p.source e⌝⟩⦄ := by
  induction fuel generalizing acc c with
  | zero => mvcgen [lettersOn]
  | succ fuel ih => mvcgen [lettersOn, ih] <;> grind [Lettered.next]

@[spec]
theorem lettersOff_spec (fuel : Nat) (acc : List Char) : Keeps p (lettersOff fuel acc) := by
  induction fuel generalizing acc with
  | zero => mvcgen [lettersOff]
  | succ fuel ih => mvcgen [lettersOff, ih] <;> grind

@[spec]
theorem optionLetters_spec (c : Char) :
    ⦃fun s => ⌜Inside p s ∧ Lettered p [] c s ∧ (isOption c || c == '-') = true⌝⦄ optionLetters c
    ⦃post⟨fun _ s => ⌜Inside p s⌝, fun e => ⌜Explained p.source e⌝⟩⦄ := by
  mvcgen [optionLetters]
  case vc11 hstop _ hs _ => exact hs.1.turnOn (beq_iff_eq.1 hstop ▸ hs.2).turnsOn
  all_goals grind

@[spec]
theorem skipLine_spec (fuel : Nat) : Keeps p (skipLine fuel) := by
  induction fuel with
  | zero => mvcgen [skipLine]
  | succ fuel ih => mvcgen [skipLine, ih] <;> grind

@[spec]
theorem skipComment_spec (start fuel : Nat) : Keeps p (skipComment start fuel) := by
  induction fuel with
  | zero => mvcgen [skipComment]
  | succ fuel ih => mvcgen [skipComment, ih] <;> grind

@[spec]
theorem expectClose_spec (start : Nat) : Keeps p (expectClose start) := by
  mvcgen [expectClose]
  grind

@[spec]
theorem conditionGroup_spec : Keeps p conditionGroup := by
  mvcgen [conditionGroup]
  next hs _ => exact hs.congr rfl rfl rfl

end Readers

/-! ## Expressions -/

/-- The readers that call one another stay inside their places; those that read the rest of a
    group are inside that group already, and so inside a place that is one deeper than the
    nesting they are called with. -/
structure Reads (fuel : Nat) : Prop where
  alternatives (p : Place) (scope : Option Options) (first : Bool) :
    Keeps p (alternatives p.nesting fuel scope first)
  sequence (p : Place) (o : Options) (first : Bool) (parts : List Part) :
    Keeps p (sequence p.nesting fuel o first parts)
  group (p : Place) (n : Nat) (hn : p.nesting = n + 1) (start : Nat) (o : Options)
    (first front : Bool) : Keeps p (group n start fuel o first front)
  inner (p : Place) (n : Nat) (hn : p.nesting = n + 1) (start : Nat) (o : Options) :
    Keeps p (inner n start fuel o)
  captured (p : Place) (n : Nat) (hn : p.nesting = n + 1) (start : Nat) (o : Options)
    (name : Option (List Char)) : Keeps p (captured n start fuel o name)
  conditional (p : Place) (n : Nat) (hn : p.nesting = n + 1) (start : Nat) (o : Options) :
    Keeps p (conditional n start fuel o)

namespace Reads

variable {fuel n start : Nat} {p : Place}

theorem zero : Reads 0 where
  alternatives p scope first := by mvcgen [Pattern.alternatives]
  sequence p o first parts := by mvcgen [Pattern.sequence]
  group p n hn start o first front := by mvcgen [Pattern.group]
  inner p n hn start o := by mvcgen [Pattern.inner]
  captured p n hn start o name := by mvcgen [Pattern.captured]
  conditional p n hn start o := by mvcgen [Pattern.conditional]

/-- Where the nesting is too deep as many groups are open, and the source has opened them. -/
theorem alternatives_succ (h : Reads fuel) (p : Place) (scope : Option Options) (first : Bool) :
    Keeps p (Pattern.alternatives p.nesting (fuel + 1) scope first) := by
  have hsequence := h.sequence p
  have halternatives := h.alternatives p
  unfold Pattern.alternatives
  split_ifs with hdeep
  · intro s hs
    have hopen := hdeep.trans_le (Nat.le_of_add_right_le hs.nesting)
    exact .inr (.inr ⟨rfl, Nat.lt_trans (by decide) hopen⟩)
  · mvcgen [hsequence, halternatives] <;> grind

theorem sequence_succ (h : Reads fuel) (p : Place) (o : Options) (first : Bool)
    (parts : List Part) : Keeps p (Pattern.sequence p.nesting (fuel + 1) o first parts) := by
  have hsequence := h.sequence p
  have hgroup := h.group p.deeper p.nesting rfl
  -- `advance` is opened here: only the token it leaves tells that a group is entered
  mvcgen [Pattern.sequence, advance, hsequence, hgroup]
  case vc5 hs _ _ _ hrest => exact ⟨hs.1.advance hrest, hs.1.left_of_head? hs.2 hrest⟩
  case vc21 hs _ _ _ hrest _ _ _ _ _ _ _ hopen =>
    exact hs.1.goDeeper (eq_of_beq hopen ▸ hs.2) hrest
  all_goals grind [Inside.advance, Inside.of_deeper]

theorem group_succ (h : Reads fuel) (hn : p.nesting = n + 1) (o : Options) (first front : Bool) :
    Keeps p (Pattern.group n start (fuel + 1) o first front) := by
  have halternatives := hn ▸ h.alternatives p
  have hinner := h.inner p n hn
  have hcaptured := h.captured p n hn
  have hconditional := h.conditional p n hn
  mvcgen [Pattern.group, halternatives, hinner, hcaptured, hconditional]
  -- looking behind is noted before the alternatives, and forgotten after them
  case vc20 hs _ _ _ _ => exact hs.1.congr rfl rfl rfl
  case vc21 hs _ => exact hs.congr rfl rfl rfl
  case vc31 hs _ hmark _ hmarked _ _ _ _ _ _ _ _ _ _ hc _ htaken =>
    exact ⟨htaken.1, .first hs (hmarked.2 (by simpa using hmark)) (htaken.2 _ rfl).1, hc⟩
  all_goals grind

theorem inner_succ (h : Reads fuel) (hn : p.nesting = n + 1) (o : Options) :
    Keeps p (Pattern.inner n start (fuel + 1) o) := by
  have halternatives := hn ▸ h.alternatives p
  mvcgen [Pattern.inner, halternatives]

theorem captured_succ (h : Reads fuel) (hn : p.nesting = n + 1) (o : Options)
    (name : Option (List Char)) : Keeps p (Pattern.captured n start (fuel + 1) o name) := by
  have hinner := h.inner p n hn
  mvcgen [Pattern.captured, hinner]

theorem conditional_succ (h : Reads fuel) (hn : p.nesting = n + 1) (o : Options) :
    Keeps p (Pattern.conditional n start (fuel + 1) o) := by
  have hsequence := hn ▸ h.sequence p
  mvcgen [Pattern.conditional, hsequence] <;> grind

end Reads

theorem reads (fuel : Nat) : Reads fuel := by
  induction fuel with
  | zero => exact Reads.zero
  | succ fuel ih =>
    exact {
      alternatives := ih.alternatives_succ
      sequence := ih.sequence_succ
      group := fun _ _ hn _ => ih.group_succ hn
      inner := fun _ _ hn _ => ih.inner_succ hn
      captured := fun _ _ hn _ => ih.captured_succ hn
      conditional := fun _ _ hn _ => ih.conditional_succ hn }

/-! ## Whole expressions -/

theorem Keeps.run {x : Reader α} {p : Place} (h : Keeps p x) {s : Progress} (hs : Inside p s) :
    Ensures (x.run s) (fun r => Inside p r.2) (Explained p.source) := by
  have hrun := h s hs
  exact Except.of_wp_eq (x := x.run s) rfl
    (fun r => Ensures r (fun r => Inside p r.2) (Explained p.source)) fun _ => hrun

/-- An expression is a pattern, or it is invalid, or it breaks. -/
theorem parse_ensures (cs : List Char) : Ensures (parse cs) (fun _ => True) (Explained cs) := by
  have hstart : Inside ⟨cs, 0⟩ ⟨tokens cs, 0, .none, false, false, #[none], [], none, []⟩ :=
    { left := by rw [Progress.left, tokens_chars]
      nesting := by simp [Progress.left, tokens_chars]
      ascii := by simp [Options.none]
      unicode := by simp }
  have hread := ((reads (8 * (tokens cs).length + 8)).alternatives ⟨cs, 0⟩ none true).run hstart
  unfold parse
  dsimp only
  split_ifs
  · trivial
  · refine hread.bind fun r hr => ?_
    by_cases hboth : (r.2.options.ascii && r.2.unicode) = true
    · obtain ⟨hascii, hunicode⟩ := (Bool.and_eq_true _ _).mp hboth
      rw [if_pos hboth]
      exact .inl ⟨rfl, .inr ⟨hr.ascii hascii, hr.unicode hunicode⟩⟩
    · rw [if_neg hboth]
      cases r.2.flaw? r.1 <;> trivial

end ApiJourney.Pattern
