-- SUMMARY: Queries are read selector by selector, with any fuel that suffices, before any rest.
import ApiJourney.Proofs.Outcome
import ApiJourney.Proofs.Query.Pieces

/-!
# Fronts of queries

A query is read one selector at a time from the front of what is left of its text. What is read
does not depend on the whole text, on the position in it or on fuel that is left over, so that a
text that is read as some selectors is read as the same ones in front of a rest that starts with a
point or a bracket.
-/

namespace ApiJourney

/-! ## Results that are kept -/

/-- Whatever the first computation results in, the second one does too. -/
def Keeps (r r' : Except ε α) : Prop :=
  ∀ a, r = .ok a → r' = .ok a

namespace Keeps

theorem refl (r : Except ε α) : Keeps r r := fun _ h => h

theorem of_error (e : ε) (r : Except ε α) : Keeps (.error e) r := nofun

theorem bind {r r' : Except ε α} {f f' : α → Except ε β} (h : Keeps r r')
    (hf : ∀ a, Keeps (f a) (f' a)) : Keeps (r >>= f) (r' >>= f') := by
  intro b hb
  obtain ⟨a, ha, hfa⟩ := bind_eq_ok.1 hb
  exact bind_eq_ok.2 ⟨a, h a ha, hf a b hfa⟩

theorem mapM {xs : List α} {f f' : α → Except ε β} (h : ∀ x, Keeps (f x) (f' x)) :
    Keeps (xs.mapM f) (xs.mapM f') := by
  induction xs with
  | nil => exact refl _
  | cons x xs ih =>
    rw [List.mapM_cons, List.mapM_cons]
    exact (h x).bind fun _ => ih.bind fun _ => refl _

end Keeps

namespace Query

open Text

/-! ## Rests -/

/-- A rest that no name in front of it runs into. -/
def Ends (rest : List Char) : Prop :=
  ∀ c ∈ rest.head?, isNameChar c = false

theorem takeWhile_append_ends {cs rest : List Char} (h : Ends rest) :
    (cs ++ rest).takeWhile isNameChar = cs.takeWhile isNameChar := by
  induction cs with
  | nil =>
    cases rest with
    | nil => rfl
    | cons c rest => exact List.takeWhile_cons_of_neg (by simp [h c rfl])
  | cons c cs ih =>
    rw [List.cons_append, List.takeWhile_cons, List.takeWhile_cons, ih]

theorem dropWhile_append_ends {cs rest : List Char} (h : Ends rest) :
    (cs ++ rest).dropWhile isNameChar = cs.dropWhile isNameChar ++ rest := by
  have hall := (List.takeWhile_append_dropWhile (p := isNameChar) (l := cs ++ rest)).trans
    (congrArg (· ++ rest) (List.takeWhile_append_dropWhile (p := isNameChar) (l := cs))).symm
  rw [takeWhile_append_ends h, List.append_assoc] at hall
  exact List.append_cancel_left hall

theorem closing_append_rest {quote : Option Char} {depth : Nat} {seen cs content left : List Char}
    (h : closing quote depth seen cs = .closed content left) (rest : List Char) :
    closing quote depth seen (cs ++ rest) = .closed content (left ++ rest) := by
  fun_induction closing quote depth seen cs with
  | case1 => cases h
  | case2 depth seen c cs q ih => exact ih h
  | case3 depth seen c cs hquote ih =>
    rw [List.cons_append, closing.eq_def]
    exact (if_pos hquote).trans (ih h)
  | case4 depth seen c cs hquote hopen ih =>
    rw [List.cons_append, closing.eq_def]
    exact (if_neg hquote).trans ((if_pos hopen).trans (ih h))
  | case5 seen c cs hquote hopen hclose hsquare =>
    obtain ⟨rfl, rfl⟩ := Closing.closed.inj h
    rw [List.cons_append, closing.eq_def]
    exact (if_neg hquote).trans ((if_neg hopen).trans ((if_pos hclose).trans (if_pos hsquare)))
  | case6 => cases h
  | case7 seen c cs hquote hopen hclose depth ih =>
    rw [List.cons_append, closing.eq_def]
    exact (if_neg hquote).trans ((if_neg hopen).trans ((if_pos hclose).trans (ih h)))
  | case8 depth seen c cs hquote hopen hclose ih =>
    rw [List.cons_append, closing.eq_def]
    exact (if_neg hquote).trans ((if_neg hopen).trans ((if_neg hclose).trans (ih h)))

/-! ## Fronts -/

/-- The selector that is read at the front of a text, and what is left behind it. What stands
    between brackets is left to another reader. -/
inductive Front (reads : List Char → Selector → Prop) :
    List Char → Selector → List Char → Prop where
  | wildcard {rest : List Char} : Front reads ('.' :: '*' :: rest) .wildcard rest
  | name {cs : List Char} : cs.head? ≠ some '*' → cs.takeWhile isNameChar ≠ [] →
      Front reads ('.' :: cs) (named (cs.takeWhile isNameChar)) (cs.dropWhile isNameChar)
  | bracket {cs content rest : List Char} {s : Selector} :
      closing none 0 [] cs = .closed content rest → reads content s →
      Front reads ('[' :: cs) s rest
  | allBelow {rest : List Char} : Front reads ('.' :: '.' :: '*' :: rest) (.descend .wildcard) rest
  | nameBelow {cs : List Char} : cs.head? ≠ some '*' → cs.takeWhile isNameChar ≠ [] →
      Front reads ('.' :: '.' :: cs) (.descend (named (cs.takeWhile isNameChar)))
        (cs.dropWhile isNameChar)
  | bracketBelow {cs content rest : List Char} {s : Selector} :
      closing none 0 [] cs = .closed content rest → reads content s →
      Front reads ('.' :: '.' :: '[' :: cs) (.descend s) rest

namespace Front

variable {reads reads' : List Char → Selector → Prop} {cs left : List Char} {s : Selector}

/-- What stands between brackets, and what is left, is shorter than the text. -/
theorem length_lt_of_closing {content : List Char}
    (h : closing none 0 [] cs = .closed content left) :
    content.length < cs.length ∧ left.length < cs.length := by
  have happend := congrArg List.length (closing_append h)
  simp only [List.reverse_nil, List.nil_append, List.length_append, List.length_cons] at happend
  omega

theorem length_dropWhile_lt (h : cs.takeWhile isNameChar ≠ []) :
    (cs.dropWhile isNameChar).length < cs.length := by
  have hall := congrArg List.length
    (List.takeWhile_append_dropWhile (p := isNameChar) (l := cs))
  have hpos := List.length_pos_iff.2 h
  rw [List.length_append] at hall
  omega

theorem length_lt (h : Front reads cs s left) : left.length < cs.length := by
  cases h with
  | wildcard => simp only [List.length_cons]; omega
  | name _ hname => exact (length_dropWhile_lt hname).trans (Nat.lt_succ_self _)
  | bracket hclosing _ => exact (length_lt_of_closing hclosing).2.trans (Nat.lt_succ_self _)
  | allBelow => simp only [List.length_cons]; omega
  | nameBelow _ hname =>
    have hless := length_dropWhile_lt hname
    simp only [List.length_cons]
    omega
  | bracketBelow hclosing _ =>
    have hless := (length_lt_of_closing hclosing).2
    simp only [List.length_cons]
    omega

/-- Only what stands between brackets, and is shorter than the text, has to be read alike. -/
theorem imp (h : Front reads cs s left)
    (himp : ∀ content s, content.length < cs.length → reads content s → reads' content s) :
    Front reads' cs s left := by
  cases h with
  | wildcard => exact .wildcard
  | name hstar hname => exact .name hstar hname
  | bracket hclosing hread =>
    have hless := (length_lt_of_closing hclosing).1
    exact .bracket hclosing (himp _ _ (by simp only [List.length_cons]; omega) hread)
  | allBelow => exact .allBelow
  | nameBelow hstar hname => exact .nameBelow hstar hname
  | bracketBelow hclosing hread =>
    have hless := (length_lt_of_closing hclosing).1
    exact .bracketBelow hclosing (himp _ _ (by simp only [List.length_cons]; omega) hread)

/-- The same selector is read in front of a rest. -/
theorem append (h : Front reads cs s left) {rest : List Char} (hrest : Ends rest) :
    Front reads (cs ++ rest) s (left ++ rest) := by
  have hname : ∀ {cs : List Char}, cs.head? ≠ some '*' → cs.takeWhile isNameChar ≠ [] →
      (cs ++ rest).head? ≠ some '*' ∧ (cs ++ rest).takeWhile isNameChar ≠ [] := by
    intro cs hstar hname
    rw [takeWhile_append_ends hrest]
    cases cs with
    | nil => exact absurd rfl hname
    | cons c cs => exact ⟨hstar, hname⟩
  cases h with
  | wildcard => exact .wildcard
  | @name cs hstar hne =>
    rw [← takeWhile_append_ends hrest, ← dropWhile_append_ends hrest]
    exact .name (hname hstar hne).1 (hname hstar hne).2
  | bracket hclosing hread => exact .bracket (closing_append_rest hclosing rest) hread
  | allBelow => exact .allBelow
  | @nameBelow cs hstar hne =>
    rw [← takeWhile_append_ends hrest, ← dropWhile_append_ends hrest]
    exact .nameBelow (hname hstar hne).1 (hname hstar hne).2
  | bracketBelow hclosing hread => exact .bracketBelow (closing_append_rest hclosing rest) hread

end Front

/-- What is read between brackets with some fuel. -/
def ReadsBracket (fuel : Nat) (content : List Char) (s : Selector) : Prop :=
  ∃ path, bracket fuel path content = .ok s

section Steps

variable {fuel : Nat} {path : String} {cs : List Char} {q : Query}

theorem bracketed_eq_ok {pos : Nat} {wrap : Selector → Selector}
    (h : bracketed fuel path pos cs wrap = .ok q) :
    ∃ content left s more pos', closing none 0 [] cs = .closed content left ∧
      bracket fuel path content = .ok s ∧ selectors fuel path pos' left = .ok more ∧
      q = wrap s :: more := by
  rw [bracketed] at h
  split at h
  · cases h
  · cases h
  · next content left hclosing =>
    obtain ⟨s, hs, h⟩ := bind_eq_ok.1 h
    obtain ⟨more, hmore, h⟩ := bind_eq_ok.1 h
    exact ⟨content, left, s, more, _, hclosing, hs, hmore, (Except.ok.inj h).symm⟩

/-- Where selectors are read there is nothing left, or a selector at the front and others in what
    is left behind it. -/
theorem selectors_eq_ok {pos : Nat} (h : selectors (fuel + 1) path pos cs = .ok q) :
    cs = [] ∧ q = [] ∨
      ∃ s left more pos', Front (ReadsBracket fuel) cs s left ∧
        selectors fuel path pos' left = .ok more ∧ q = s :: more := by
  have hstep : ∀ {s left pos'}, Front (ReadsBracket fuel) cs s left →
      (do let more ← selectors fuel path pos' left; .ok (s :: more)) = Except.ok q →
      ∃ s left more pos', Front (ReadsBracket fuel) cs s left ∧
        selectors fuel path pos' left = .ok more ∧ q = s :: more := by
    intro s left pos' hfront h
    obtain ⟨more, hmore, h⟩ := bind_eq_ok.1 h
    exact ⟨s, left, more, pos', hfront, hmore, (Except.ok.inj h).symm⟩
  -- Where the reader has no star before it, its last case speaks of names only.
  have hstar : ∀ {rest : List Char}, (∀ r, rest = '*' :: r → False) → rest.head? ≠ some '*' := by
    intro rest hne hhead
    obtain ⟨r, hr⟩ := List.head?_eq_some_iff.1 hhead
    exact hne r hr
  unfold selectors at h
  split at h
  · exact .inl ⟨rfl, (Except.ok.inj h).symm⟩
  · cases h
  · next n rest hfuel =>
    obtain rfl := Nat.succ.inj hfuel
    refine .inr ?_
    split at h
    · cases h
    · next inner =>
      obtain ⟨content, left, s, more, pos', hclosing, hs, hmore, rfl⟩ := bracketed_eq_ok h
      exact ⟨_, left, more, pos', .bracketBelow hclosing ⟨path, hs⟩, hmore, rfl⟩
    · exact hstep .allBelow h
    · next hne =>
      dsimp only at h
      split_ifs at h with hempty
      · cases h
      exact hstep (.nameBelow (hstar hne) (by rwa [List.isEmpty_iff] at hempty)) h
  · next n rest _ hfuel =>
    obtain rfl := Nat.succ.inj hfuel
    refine .inr ?_
    split at h
    · exact hstep .wildcard h
    · next hne =>
      dsimp only at h
      split_ifs at h with hempty
      · cases h
      exact hstep (.name (hstar hne) (by rwa [List.isEmpty_iff] at hempty)) h
  · next n inner hfuel =>
    obtain rfl := Nat.succ.inj hfuel
    obtain ⟨content, left, s, more, pos', hclosing, hs, hmore, rfl⟩ := bracketed_eq_ok h
    exact .inr ⟨_, left, more, pos', .bracket hclosing ⟨path, hs⟩, hmore, rfl⟩
  · cases h

theorem bracketed_of_closing {content left : List Char} {s : Selector} {pos : Nat}
    {wrap : Selector → Selector} (hclosing : closing none 0 [] cs = .closed content left)
    (hs : bracket fuel path content = .ok s)
    (hmore : ∀ pos, selectors fuel path pos left = .ok q) :
    bracketed fuel path pos cs wrap = .ok (wrap s :: q) := by
  rw [bracketed, hclosing]
  dsimp only
  rw [hs, hmore]
  rfl

/-- A name starts with no other character that a selector may start with. -/
theorem cases_of_name {cs : List Char} (hname : cs.takeWhile isNameChar ≠ []) :
    cs ≠ [] ∧ (∀ rest, cs ≠ '.' :: rest) ∧ ∀ rest, cs ≠ '[' :: rest := by
  refine ⟨?_, ?_, ?_⟩
  · rintro rfl
    exact hname rfl
  · rintro rest rfl
    exact hname rfl
  · rintro rest rfl
    exact hname rfl

/-- Where a selector is at the front it is read, and then the others are. -/
theorem selectors_of_front {left : List Char} {s : Selector}
    (h : Front (fun content s => bracket fuel path content = .ok s) cs s left)
    (hmore : ∀ pos, selectors fuel path pos left = .ok q) (pos : Nat) :
    selectors (fuel + 1) path pos cs = .ok (s :: q) := by
  cases h with
  | wildcard =>
    rw [selectors, hmore]
    rfl
  | @name cs hstar hname =>
    have hempty : ¬ (cs.takeWhile isNameChar).isEmpty = true := by rwa [List.isEmpty_iff]
    rw [selectors, if_neg hempty, hmore]
    · rfl
    · exact (cases_of_name hname).2.1
    · rintro rest rfl
      exact hstar rfl
  | bracket hclosing hs =>
    rw [selectors]
    exact bracketed_of_closing hclosing hs hmore
  | allBelow =>
    rw [selectors, hmore]
    rfl
  | @nameBelow cs hstar hname =>
    have hempty : ¬ (cs.takeWhile isNameChar).isEmpty = true := by rwa [List.isEmpty_iff]
    rw [selectors, if_neg hempty, hmore]
    · rfl
    · exact (cases_of_name hname).1
    · exact (cases_of_name hname).2.2
    · rintro rest rfl
      exact hstar rfl
  | bracketBelow hclosing hs =>
    rw [selectors]
    exact bracketed_of_closing hclosing hs hmore

end Steps

/-! ## Fuel -/

section Fuel

variable {fuel fuel' : Nat} {path path' : String}

theorem sliceBound_keeps (piece : List Char) :
    Keeps (sliceBound path piece) (sliceBound path' piece) := by
  unfold sliceBound
  dsimp only
  split_ifs
  · exact .refl _
  · exact .refl _
  · exact .of_error _ _

theorem slice_keeps (content : List Char) : Keeps (slice path content) (slice path' content) := by
  unfold slice
  dsimp only
  split
  · exact .of_error _ _
  · refine (Keeps.mapM sliceBound_keeps).bind fun bounds => ?_
    split
    · exact .of_error _ _
    · exact .refl _

theorem member_keeps (content part : List Char) :
    Keeps (member path content part) (member path' content part) := by
  unfold member
  dsimp only
  split
  · exact .of_error _ _
  · exact .refl _

theorem bracket_keeps {content : List Char}
    (hfilter : ∀ expression, expression.length ≤ content.length →
      Keeps (filter fuel path expression) (filter fuel' path' expression)) :
    Keeps (bracket fuel path content) (bracket fuel' path' content) := by
  rw [bracket, bracket]
  split
  · exact .of_error _ _
  · exact .refl _
  · next rest hrest =>
    split
    · next inner hinner =>
      split
      · -- The expression is what is left of the content without `?(` and `)`.
        refine hfilter _ ?_
        have htrim := (trim_isInfix content).length_le
        have hbehind := (trim_isInfix rest).length_le
        simp only [hrest, hinner, List.length_cons] at htrim hbehind
        rw [List.length_dropLast]
        omega
      · exact .of_error _ _
    · exact .of_error _ _
  · split
    · exact .of_error _ _
    · split
      · exact slice_keeps _
      · exact (Keeps.mapM fun part => member_keeps _ part).bind fun _ => .refl _

theorem length_lt_of_filterParts? {cs relative : List Char}
    {test : Option (Comparison × List Char)} (h : filterParts? cs = some (relative, test)) :
    relative.length < cs.length := by
  have htrim := (trimStart_suffix cs).length_le
  unfold filterParts? at h
  split at h
  · next rest hrest =>
    have hpath := (List.takeWhile_prefix (l := rest) isFilterPathChar).length_le
    rw [hrest, List.length_cons] at htrim
    dsimp only at h
    split at h
    · cases h
      omega
    · split_ifs at h
      cases h
      omega
  · cases h

theorem parseWith_root (fuel : Nat) (cs : List Char) : parseWith fuel ('$' :: cs)
    = selectors fuel (String.ofList ('$' :: trimEnd cs)) 1 (trimEnd cs) := by
  rw [parseWith, trim_cons (by decide) cs]
  rfl

theorem parseWith_root_keeps {relative : List Char}
    (hselectors : ∀ path cs, cs.length ≤ relative.length →
      Keeps (selectors fuel path 1 cs) (selectors fuel' path 1 cs)) :
    Keeps (parseWith fuel ('$' :: relative)) (parseWith fuel' ('$' :: relative)) := by
  rw [parseWith_root, parseWith_root]
  exact hselectors _ _ (dropEndWhile_isPrefix _ _).length_le

theorem filter_keeps {expression : List Char}
    (hquery : ∀ relative, relative.length < expression.length →
      Keeps (parseWith fuel ('$' :: relative)) (parseWith fuel' ('$' :: relative))) :
    Keeps (filter (fuel + 1) path expression) (filter (fuel' + 1) path' expression) := by
  unfold filter
  cases hparts : filterParts? expression with
  | none => exact .of_error _ _
  | some parts =>
    exact (hquery _ (length_lt_of_filterParts? hparts)).bind fun _ => .refl _

/-- What is read with some fuel is read with as much of it as the text is long, and in another
    text. -/
structure Steady (fuel fuel' : Nat) : Prop where
  filter : ∀ path path' expression, expression.length ≤ fuel' →
    Keeps (filter fuel path expression) (filter fuel' path' expression)
  selectors : ∀ path path' pos pos' cs, cs.length ≤ fuel' →
    Keeps (selectors fuel path pos cs) (selectors fuel' path' pos' cs)

theorem Steady.of_readsBracket (h : Steady fuel fuel') {content : List Char} {s : Selector}
    (hfuel : content.length ≤ fuel') (hs : ReadsBracket fuel content s) (path' : String) :
    bracket fuel' path' content = .ok s :=
  let ⟨path, hs⟩ := hs
  bracket_keeps (fun e he => h.filter path path' e (he.trans hfuel)) s hs

theorem steady (fuel fuel' : Nat) : Steady fuel fuel' := by
  induction fuel generalizing fuel' with
  | zero =>
    refine ⟨fun path path' expression _ => ?_, fun path path' pos pos' cs _ => ?_⟩
    · unfold Query.filter
      exact .of_error _ _
    · cases cs with
      | nil =>
        rw [Query.selectors, Query.selectors]
        exact .refl _
      | cons c cs =>
        rw [Query.selectors]
        exact .of_error _ _
  | succ fuel ih =>
    -- Only what succeeds has to be kept, and every selector read leaves a shorter text.
    refine ⟨fun path path' expression hlength => ?_,
      fun path path' pos pos' cs hlength q hq => ?_⟩
    · cases fuel' with
      | zero =>
        obtain rfl := List.length_eq_zero_iff.1 (Nat.le_zero.1 hlength)
        unfold Query.filter
        exact .of_error _ _
      | succ fuel' =>
        exact filter_keeps fun relative hrelative => parseWith_root_keeps fun path cs hcs =>
          (ih fuel').selectors path path 1 1 cs (by omega)
    · rcases selectors_eq_ok hq with ⟨rfl, rfl⟩ | ⟨s, left, more, pos'', hfront, hmore, rfl⟩
      · rw [Query.selectors]
      · have hless := hfront.length_lt
        obtain ⟨fuel', rfl⟩ : ∃ n, fuel' = n + 1 := Nat.exists_eq_add_one.2 (by omega)
        exact selectors_of_front
          (hfront.imp fun content s hcontent hs => (ih fuel').of_readsBracket (by omega) hs path')
          (fun pos => (ih fuel').selectors path path' pos'' pos left (by omega) more hmore) pos'

end Fuel

/-! ## Rests that are read -/

/-- Selectors and the selectors of a rest are read one after the other. -/
theorem selectors_append {fuel fuel' m : Nat} {path path' other : String} {pos pos' : Nat}
    {cs rest : List Char} {q more : Query} (h : selectors fuel path pos cs = .ok q)
    (hmore : selectors m other pos' rest = .ok more) (hends : Ends rest)
    (hfuel : (cs ++ rest).length ≤ fuel') (pos'' : Nat) :
    selectors fuel' path' pos'' (cs ++ rest) = .ok (q ++ more) := by
  have hrest : ∀ {n}, rest.length ≤ n → ∀ pos, selectors n path' pos rest = .ok more :=
    fun hn pos => (steady m _).selectors _ _ _ _ _ hn _ hmore
  rw [List.length_append] at hfuel
  induction fuel generalizing fuel' pos cs q pos'' with
  | zero =>
    cases cs with
    | nil =>
      rw [selectors] at h
      cases h
      exact hrest (by omega) pos''
    | cons c cs =>
      rw [selectors] at h
      cases h
  | succ fuel ih =>
    rcases selectors_eq_ok h with ⟨rfl, rfl⟩ | ⟨s, left, own, next, hfront, hown, rfl⟩
    · exact hrest (by omega) pos''
    · have hless := hfront.length_lt
      -- The text grew by `rest`, so another fuel is spent: both readings agree by `steady`.
      obtain ⟨n, rfl⟩ : ∃ n, fuel' = n + 1 := Nat.exists_eq_add_one.2 (by omega)
      have hread := (hfront.imp fun content s hcontent hs =>
        (steady fuel n).of_readsBracket (by omega) hs path').append hends
      exact selectors_of_front hread (fun pos => ih hown (by omega) pos) pos''

end Query

end ApiJourney
