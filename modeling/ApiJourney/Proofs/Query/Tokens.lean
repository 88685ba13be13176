-- SUMMARY: What the quoted tokens of a path are read as.
import ApiJourney.Proofs.Query.Literals
import ApiJourney.Proofs.Query.Parser

/-!
# Quoted tokens

Members and literals may be quoted. A quoted token is complete if its quote stands at both ends and
nowhere else. The reader only looks at the ends of a token, so it also takes tokens whose quote
stands inside as well, and for members those behind whose closing quote something else follows. Each
of them is read as another name or another text than the one that its first quotes enclose.
-/

namespace ApiJourney.Query

open Text

/-! ## Brackets of a path -/

/-- The selectors of a path: what stands behind its root or its first name. -/
def selectorText (text : List Char) : List Char :=
  match trim text with
  | [] => []
  | '$' :: rest => rest
  | c :: rest => if c == '.' || c == '[' then c :: rest else (c :: rest).dropWhile isNameChar

/-- The expression in the parentheses of a filter. -/
def expression? (content : List Char) : Option (List Char) :=
  match trim content with
  | '?' :: rest =>
    match trim rest with
    | '(' :: inner => if inner.getLast? == some ')' then some inner.dropLast else none
    | _ => none
  | _ => none

/-- What stands in some brackets of a text of selectors, also in those of the paths of filters. -/
inductive HasBracket : List Char → List Char → Prop where
  | first {cs content left : List Char} :
      closing none 0 [] cs = .closed content left → HasBracket ('[' :: cs) content
  | descent {cs content left : List Char} :
      closing none 0 [] cs = .closed content left → HasBracket ('.' :: '.' :: '[' :: cs) content
  | behind {cs left content : List Char} {s : Selector} :
      Front (fun _ _ => True) cs s left → HasBracket left content → HasBracket cs content
  | inside {cs content expression relative inner : List Char}
      {test : Option (Comparison × List Char)} :
      HasBracket cs content → expression? content = some expression →
      filterParts? expression = some (relative, test) → HasBracket relative inner →
      HasBracket cs inner

/-- The members between brackets, without the blanks around them. -/
def memberTokens (content : List Char) : List (List Char) :=
  match trim content with
  | '?' :: _ => []
  | cs => ((splitUnquoted ',' none cs).1 :: (splitUnquoted ',' none cs).2.1).map trim

/-- The literal of a filter, without the blanks around it. -/
def literalToken? (content : List Char) : Option (List Char) := do
  let expression ← expression? content
  let (_, test) ← filterParts? expression
  let (_, text) ← test
  some (trim text)

/-- A selector of a query, also one that is descended to or that stands in a filter. -/
inductive HasSelector : Query → Selector → Prop where
  | mem {q : Query} {s : Selector} : s ∈ q → HasSelector q s
  | descent {q : Query} {s : Selector} : HasSelector q (.descend s) → HasSelector q s
  | inside {q relative : Query} {test : FilterTest} {s : Selector} :
      HasSelector q (.filter relative test) → HasSelector relative s → HasSelector q s

theorem HasSelector.cons {q : Query} {s : Selector} (h : HasSelector q s) (first : Selector) :
    HasSelector (first :: q) s := by
  induction h generalizing first with
  | mem hs => exact .mem (List.mem_cons_of_mem _ hs)
  | descent _ ih => exact .descent (ih first)
  | inside _ hs ih _ => exact .inside (ih first) hs

/-- What is left behind the first selector does not depend on how brackets are read. -/
theorem Front.left_unique {reads reads' : List Char → Selector → Prop} {cs left left' : List Char}
    {s s' : Selector} (h : Front reads cs s left) (h' : Front reads' cs s' left') :
    left = left' := by
  -- A name never starts with a point or a bracket, which separates the forms of a front.
  have hpoint : ∀ {rest : List Char}, ('.' :: rest).takeWhile isNameChar = [] := fun {rest} => rfl
  have hsquare : ∀ {rest : List Char}, ('[' :: rest).takeWhile isNameChar = [] := fun {rest} => rfl
  cases h with
  | wildcard =>
    cases h' with
    | wildcard => rfl
    | name hstar _ => exact absurd rfl hstar
  | name hstar hname =>
    cases h' with
    | wildcard => exact absurd rfl hstar
    | name _ _ => rfl
    | allBelow => exact absurd hpoint hname
    | nameBelow _ _ => exact absurd hpoint hname
    | bracketBelow _ _ => exact absurd hpoint hname
  | bracket hclosing _ =>
    cases h' with
    | bracket hclosing' _ => exact (Closing.closed.inj (hclosing.symm.trans hclosing')).2
  | allBelow =>
    cases h' with
    | name _ hname => exact absurd hpoint hname
    | allBelow => rfl
    | nameBelow hstar _ => exact absurd rfl hstar
  | nameBelow hstar hname =>
    cases h' with
    | name _ hname' => exact absurd hpoint hname'
    | allBelow => exact absurd rfl hstar
    | nameBelow _ _ => rfl
    | bracketBelow _ _ => exact absurd hsquare hname
  | bracketBelow hclosing _ =>
    cases h' with
    | name _ hname => exact absurd hpoint hname
    | nameBelow _ hname => exact absurd hsquare hname
    | bracketBelow hclosing' _ => exact (Closing.closed.inj (hclosing.symm.trans hclosing')).2

/-! ## Brackets that are read -/

section Reading

variable {fuel : Nat} {path : String} {content expression : List Char} {q : Query} {s : Selector}

theorem bracket_of_expression (h : expression? content = some expression) :
    bracket fuel path content = filter fuel path expression := by
  unfold expression? at h
  rw [bracket]
  split at h
  · next rest hrest =>
    split at h
    · next inner hinner =>
      split_ifs at h with hclosed
      obtain rfl := Option.some.inj h
      simp only [hrest, hinner]
      exact if_pos hclosed
    · cases h
  · cases h

theorem isBlank_of_isFilterPathChar {c : Char} (h : isFilterPathChar c = true) :
    isBlank c = false := by
  simp only [isFilterPathChar, Bool.and_eq_true, Bool.not_eq_true'] at h
  exact h.2

/-- The path of a filter has no blanks, so that all of it is read. -/
theorem trimEnd_relative {relative : List Char} {test : Option (Comparison × List Char)}
    (h : filterParts? expression = some (relative, test)) : trimEnd relative = relative := by
  have hblank : ∀ {rest : List Char}, trimEnd (rest.takeWhile isFilterPathChar) =
      rest.takeWhile isFilterPathChar := by
    intro rest
    refine trimEnd_of_trim (trim_of_ends (fun c hc => ?_) fun c hc => ?_)
    · exact isBlank_of_isFilterPathChar (List.mem_takeWhile_imp (List.mem_of_mem_head? hc))
    · exact isBlank_of_isFilterPathChar (List.mem_takeWhile_imp (List.mem_of_mem_getLast? hc))
  unfold filterParts? at h
  split at h
  · dsimp only at h
    split at h
    · obtain ⟨rfl, -⟩ := Prod.mk.inj (Option.some.inj h)
      exact hblank
    · split_ifs at h
      obtain ⟨rfl, -⟩ := Prod.mk.inj (Option.some.inj h)
      exact hblank
  · cases h

theorem filter_eq_ok (h : filter fuel path expression = .ok s) :
    ∃ n relative test query, filterParts? expression = some (relative, test) ∧
      parseWith n ('$' :: relative) = .ok query ∧
      (test = none ∧ s = .filter query .exist ∨
        ∃ op text v, test = some (op, text) ∧ literal text = .ok v ∧
          s = .filter query (.compare op v)) := by
  unfold filter at h
  split at h
  · next n relative test hparts =>
    obtain ⟨query, hquery, h⟩ := bind_eq_ok.1 h
    refine ⟨n, relative, test, query, hparts, hquery, ?_⟩
    rcases test with _ | ⟨op, text⟩
    · exact .inl ⟨rfl, (Except.ok.inj h).symm⟩
    · obtain ⟨v, hv, h⟩ := bind_eq_ok.1 h
      exact .inr ⟨op, text, v, rfl, hv, (Except.ok.inj h).symm⟩
  · cases h

/-- Selectors that are read from a text that is not empty start with one at its front. -/
theorem front_of_selectors {cs : List Char} {pos : Nat} (hne : cs ≠ [])
    (h : selectors fuel path pos cs = .ok q) :
    ∃ n s left more pos', Front (ReadsBracket n) cs s left ∧
      selectors n path pos' left = .ok more ∧ q = s :: more := by
  cases fuel with
  | zero =>
    obtain ⟨c, rest, rfl⟩ := List.exists_cons_of_ne_nil hne
    rw [selectors] at h
    cases h
  | succ n =>
    rcases selectors_eq_ok h with ⟨hnil, -⟩ | ⟨s, left, more, pos', hfront, hmore, hq⟩
    · exact absurd hnil hne
    · exact ⟨n, s, left, more, pos', hfront, hmore, hq⟩

/-- What stands in some brackets is read as a selector of the query. -/
theorem HasBracket.selector {cs : List Char} {pos : Nat} (h : HasBracket cs content)
    (hread : selectors fuel path pos cs = .ok q) :
    ∃ s, HasSelector q s ∧ ∃ fuel, ReadsBracket fuel content s := by
  induction h generalizing fuel path pos q with
  | first hclosing =>
    obtain ⟨n, s, left, more, _, hfront, -, rfl⟩ := front_of_selectors (List.cons_ne_nil _ _) hread
    cases hfront with
    | bracket hclosing' hcontent =>
      obtain ⟨rfl, -⟩ := Closing.closed.inj (hclosing.symm.trans hclosing')
      exact ⟨s, .mem List.mem_cons_self, n, hcontent⟩
  | descent hclosing =>
    obtain ⟨n, s, left, more, _, hfront, -, rfl⟩ := front_of_selectors (List.cons_ne_nil _ _) hread
    cases hfront with
    | name _ hname => exact absurd rfl hname
    | nameBelow _ hname => exact absurd rfl hname
    | @bracketBelow _ _ _ s hclosing' hcontent =>
      obtain ⟨rfl, -⟩ := Closing.closed.inj (hclosing.symm.trans hclosing')
      exact ⟨s, .descent (.mem List.mem_cons_self), n, hcontent⟩
  | behind hfront _ ih =>
    have hne := List.ne_nil_of_length_pos (Nat.zero_lt_of_lt hfront.length_lt)
    obtain ⟨n, s, left, more, _, hfront', hmore, rfl⟩ := front_of_selectors hne hread
    obtain rfl := hfront.left_unique hfront'
    obtain ⟨s', hs', hcontent⟩ := ih hmore
    exact ⟨s', hs'.cons s, hcontent⟩
  | inside _ hexpression hparts _ ih ihinner =>
    obtain ⟨s, hs, n, path', hcontent⟩ := ih hread
    rw [bracket_of_expression hexpression] at hcontent
    obtain ⟨m, relative, test, query, hparts', hquery, hfilter⟩ := filter_eq_ok hcontent
    obtain ⟨rfl, rfl⟩ := Prod.mk.inj (Option.some.inj (hparts.symm.trans hparts'))
    rw [parseWith_root, trimEnd_relative hparts] at hquery
    obtain ⟨s', hs', hinner⟩ := ihinner hquery
    rcases hfilter with ⟨-, rfl⟩ | ⟨_, _, _, -, -, rfl⟩
    · exact ⟨s', .inside hs hs', hinner⟩
    · exact ⟨s', .inside hs hs', hinner⟩

theorem selectorText_cons {text rest : List Char} {c : Char} (htrim : trim text = c :: rest)
    (hroot : c ≠ '$') : selectorText text =
      if c == '.' || c == '[' then c :: rest else (c :: rest).dropWhile isNameChar := by
  unfold selectorText
  rw [htrim]
  split
  · next h => cases h
  · next h => exact absurd (List.cons.inj h).1 hroot
  · next h =>
    obtain ⟨rfl, rfl⟩ := List.cons.inj h
    rfl

/-- The selectors of a path are read, with a name in front of them or not. -/
theorem selectors_of_parseWith {text : List Char} (h : parseWith fuel text = .ok q) :
    ∃ front more path pos, q = front ++ more ∧
      selectors fuel path pos (selectorText text) = .ok more := by
  rw [parseWith] at h
  split at h
  · cases h
  · next rest hroot =>
    have hselectors : selectorText text = rest := by
      rw [selectorText, hroot]
      rfl
    rw [hselectors]
    exact ⟨[], q, _, _, rfl, h⟩
  · next c rest hroot htrim =>
    have hselectors := selectorText_cons htrim hroot
    rw [hselectors]
    dsimp only at h
    split_ifs at h ⊢ with hstart hempty
    · exact ⟨[], q, _, _, rfl, htrim ▸ h⟩
    · cases h
    · obtain ⟨more, hmore, h⟩ := bind_eq_ok.1 h
      rw [htrim] at hmore
      exact ⟨[_], more, _, _, (Except.ok.inj h).symm, hmore⟩

end Reading

/-! ## Quotes -/

/-- The quote that is open behind a character. -/
def quoteBehind : Option Char → Char → Option Char
  | some q, c => if c == q then none else some q
  | none, c => if isQuote c then some c else none

theorem quoteBehind_of_blank {cs : List Char} (h : ∀ c ∈ cs, isBlank c = true) :
    cs.foldl quoteBehind none = none := by
  induction cs with
  | nil => rfl
  | cons c cs ih =>
    rw [List.forall_mem_cons] at h
    have hquote : ¬ isQuote c = true := by
      intro hc
      rw [isBlank_of_isQuote hc] at h
      exact Bool.false_ne_true h.1
    rw [List.foldl_cons, quoteBehind, if_neg hquote]
    exact ih h.2

/-- A quote that is closed again stands somewhere in the text. -/
theorem mem_of_quoteBehind {quote : Char} {cs : List Char}
    (h : cs.foldl quoteBehind (some quote) = none) : quote ∈ cs := by
  induction cs with
  | nil => cases h
  | cons c cs ih =>
    rw [List.foldl_cons, quoteBehind] at h
    split_ifs at h with hc
    · rw [beq_iff_eq] at hc
      exact hc ▸ List.mem_cons_self
    · exact List.mem_cons_of_mem _ (ih h)

/-- A character is the next one of the first part, or it separates that part from the others. -/
theorem splitUnquoted_cons {separator c : Char} {quote final : Option Char} {cs part : List Char}
    {parts : List (List Char)}
    (h : splitUnquoted separator quote (c :: cs) = (part, parts, final)) :
    (∃ behind, splitUnquoted separator (quoteBehind quote c) cs = (behind, parts, final) ∧
      part = c :: behind) ∨
    quote = none ∧ part = [] ∧ ∃ first more,
      splitUnquoted separator none cs = (first, more, final) ∧ parts = first :: more := by
  cases quote with
  | some q =>
    obtain ⟨rfl, rfl, rfl⟩ := by simpa only [splitUnquoted, Prod.mk.injEq] using h
    exact .inl ⟨_, rfl, rfl⟩
  | none =>
    rw [splitUnquoted] at h
    rw [quoteBehind]
    split_ifs at h ⊢
    · obtain ⟨rfl, rfl, rfl⟩ := by simpa only [Prod.mk.injEq] using h
      exact .inl ⟨_, rfl, rfl⟩
    · obtain ⟨rfl, rfl, rfl⟩ := by simpa only [Prod.mk.injEq] using h
      exact .inr ⟨rfl, rfl, _, _, rfl, rfl⟩
    · obtain ⟨rfl, rfl, rfl⟩ := by simpa only [Prod.mk.injEq] using h
      exact .inl ⟨_, rfl, rfl⟩

/-- No part of a text that is split with all quotes closed leaves a quote open. -/
theorem quoteBehind_of_splitUnquoted {separator : Char} {quote : Option Char} {cs part : List Char}
    {parts : List (List Char)} (h : splitUnquoted separator quote cs = (part, parts, none)) :
    part.foldl quoteBehind quote = none ∧ ∀ p ∈ parts, p.foldl quoteBehind none = none := by
  induction cs generalizing quote part parts with
  | nil =>
    cases quote <;> cases h
    exact ⟨rfl, nofun⟩
  | cons c cs ih =>
    rcases splitUnquoted_cons h with ⟨behind, hbehind, rfl⟩ | ⟨rfl, rfl, first, more, hmore, rfl⟩
    · rw [List.foldl_cons]
      exact ih hbehind
    · exact ⟨rfl, List.forall_mem_cons.2 (ih hmore)⟩

/-- Behind the quote that a closed part starts with, blanks aside, the quote stands again. -/
theorem mem_of_closed {part rest : List Char} {quote : Char} (hquote : isQuote quote = true)
    (hclosed : part.foldl quoteBehind none = none) (htrim : trim part = quote :: rest) :
    quote ∈ rest := by
  obtain ⟨hblank, behind, hfront, rfl⟩ := trim_eq_cons htrim
  have hblanks : (part.takeWhile isBlank).foldl quoteBehind none = none :=
    quoteBehind_of_blank fun c hc => List.mem_takeWhile_imp hc
  rw [← List.takeWhile_append_dropWhile (p := isBlank) (l := part), List.foldl_append, hblanks,
    show part.dropWhile isBlank = quote :: behind from hfront, List.foldl_cons, quoteBehind,
    if_pos hquote] at hclosed
  rw [trimEnd, dropEndWhile, List.mem_reverse]
  exact mem_dropWhile_of_not hblank (List.mem_reverse.2 (mem_of_quoteBehind hclosed))

/-! ## Tokens -/

/-- A token that is one quoted string. -/
def IsComplete (token : List Char) : Prop :=
  ∃ quote text, isQuote quote = true ∧ quote ∉ text ∧ token = quotedBy quote text

/-- The name that a quoted member is read as. Only a complete one is read as what it quotes. -/
inductive QuotedName : List Char → List Char → Prop where
  | complete {quote : Char} {name : List Char} :
      isQuote quote = true → quote ∉ name → QuotedName (quotedBy quote name) name
  /-- Between its ends stands more than the first quotes enclose. -/
  | reopened {quote : Char} {name behind : List Char} :
      isQuote quote = true → quote ∉ name →
      QuotedName (quotedBy quote name ++ behind ++ [quote]) (name ++ quote :: behind)
  /-- Something else follows the closing quote, so that the quotes belong to the name. -/
  | trailing {quote : Char} {name behind : List Char} :
      isQuote quote = true → quote ∉ name → behind ≠ [] → behind.getLast? ≠ some quote →
      QuotedName (quotedBy quote name ++ behind) (quotedBy quote name ++ behind)

theorem quotedName_of_mem {quote : Char} {rest : List Char} (hquote : isQuote quote = true)
    (hmem : quote ∈ rest) :
    QuotedName (quote :: rest) ((unquoted? (quote :: rest)).getD (quote :: rest)) := by
  obtain ⟨name, behind, rfl, hfree⟩ := List.eq_append_cons_of_mem hmem
  rcases List.eq_nil_or_concat' behind with rfl | ⟨more, last, rfl⟩
  · rw [← quotedBy, unquoted?_quotedBy hquote]
    exact .complete hquote hfree
  · have hrest : name ++ quote :: (more ++ [last]) = name ++ quote :: more ++ [last] := by simp
    have hlast : (name ++ quote :: (more ++ [last])).getLast? = some last := by
      rw [hrest, List.getLast?_concat]
    have htoken : quote :: (name ++ quote :: (more ++ [last])) =
        quotedBy quote name ++ (more ++ [last]) := by simp [quotedBy]
    rw [unquoted?, hquote, hlast, htoken]
    by_cases hends : last = quote
    · subst hends
      rw [hrest, List.dropLast_concat, ← List.append_assoc]
      simpa using QuotedName.reopened hquote hfree
    · have hnone : ¬ (true && some last == some quote) = true := by simpa using hends
      rw [if_neg hnone]
      exact .trailing hquote hfree (by simp) (by simpa using hends)

theorem memberTokens_cons {content rest : List Char} {first : Char}
    (htrim : trim content = first :: rest) (hfilter : first ≠ '?') :
    memberTokens content =
      ((splitUnquoted ',' none (first :: rest)).1 ::
        (splitUnquoted ',' none (first :: rest)).2.1).map trim := by
  unfold memberTokens
  rw [htrim]
  split
  · next h => exact absurd (List.cons.inj h).1 hfilter
  · rfl

/-- What has no separator outside of quotes is its only part. -/
theorem eq_of_splitUnquoted {separator : Char} {quote final : Option Char} {cs part : List Char}
    (h : splitUnquoted separator quote cs = (part, [], final)) : part = cs := by
  induction cs generalizing quote part with
  | nil =>
    cases quote <;> cases h <;> rfl
  | cons c cs ih =>
    rcases splitUnquoted_cons h with ⟨behind, hbehind, rfl⟩ | ⟨-, -, _, _, -, hparts⟩
    · rw [ih hbehind]
    · cases hparts

section Reading

variable {fuel : Nat} {path : String} {content token : List Char} {s : Selector} {quote : Char}

theorem member_quoted {part rest : List Char} (hquote : isQuote quote = true)
    (htrim : trim part = quote :: rest) (path : String) (content : List Char) :
    member path content part =
      .ok (.name (String.ofList ((unquoted? (quote :: rest)).getD (quote :: rest)))) := by
  rw [member, htrim]
  exact if_pos hquote

/-- A quoted member of brackets that are read is one of the names that are selected. -/
theorem members_of_bracket (h : bracket fuel path content = .ok s)
    (htoken : token ∈ memberTokens content) (hfirst : token.head? = some quote)
    (hquote : isQuote quote = true) :
    ∃ name ms, QuotedName token name ∧ s = .members ms ∧ .name (String.ofList name) ∈ ms := by
  obtain ⟨rest, rfl⟩ := List.head?_eq_some_iff.1 hfirst
  rw [bracket] at h
  split at h
  · cases h
  · next hstar =>
    have htokens : memberTokens content = [['*']] := memberTokens_cons hstar (by decide)
    rw [htokens, List.mem_singleton] at htoken
    obtain ⟨rfl, -⟩ := List.cons.inj htoken
    cases hquote
  · next hfilter =>
    rw [memberTokens, hfilter] at htoken
    cases htoken
  · next first behind hstar hfilter htrim =>
    rw [memberTokens_cons htrim hfilter] at htoken
    split at h
    · cases h
    · next part parts hsplit =>
      rw [htrim] at hsplit
      rw [hsplit] at htoken
      obtain ⟨p, hp, hptrim⟩ := List.mem_map.1 htoken
      have hclosed : p.foldl quoteBehind none = none := by
        obtain ⟨hpart, hparts⟩ := quoteBehind_of_splitUnquoted hsplit
        rcases List.mem_cons.1 hp with rfl | hp
        · exact hpart
        · exact hparts p hp
      have hname := quotedName_of_mem hquote (mem_of_closed hquote hclosed hptrim)
      split_ifs at h with hslice
      -- The only part of a slice is all that stands between the brackets.
      · simp only [Bool.and_eq_true, List.isEmpty_iff, Bool.not_eq_true'] at hslice
        obtain ⟨⟨rfl, -⟩, hfirst⟩ := hslice
        obtain rfl := List.mem_singleton.1 hp
        rw [eq_of_splitUnquoted hsplit, ← htrim, trim_trim, htrim] at hptrim
        rw [(List.cons.inj hptrim).1, hquote] at hfirst
        cases hfirst
      · obtain ⟨ms, hms, h⟩ := bind_eq_ok.1 h
        obtain ⟨m, hm, hread⟩ := exists_of_mapM hms hp
        rw [member_quoted hquote hptrim] at hread
        exact ⟨_, ms, hname, (Except.ok.inj h).symm, Except.ok.inj hread ▸ hm⟩

theorem eq_quotedBy_of_unquoted? {rest inner : List Char}
    (h : unquoted? (quote :: rest) = some inner) : quote :: rest = quotedBy quote inner := by
  simp only [unquoted?, Option.ite_none_right_eq_some, Bool.and_eq_true, beq_iff_eq,
    Option.some.injEq] at h
  obtain ⟨⟨-, hlast⟩, rfl⟩ := h
  rw [quotedBy, List.dropLast_append_getLast? quote hlast]

theorem read_quote (rest : List Char) : Json.read ('\'' :: rest) = .error .malformed := by
  have hblanks : Json.skipBlanks ('\'' :: rest) = '\'' :: rest := rfl
  rw [Json.read, hblanks, List.length_cons, Json.value.eq_def]
  rfl

/-- A literal that begins with a single quote is read if it ends with another one, as the text
    between them. -/
theorem literal_of_quote {text : List Char} {v : Value} (h : literal text = .ok v)
    (hfirst : (trim text).head? = some '\'') :
    ∃ inner, trim text = quotedBy '\'' inner ∧ v = .text (String.ofList inner) := by
  obtain ⟨rest, hrest⟩ := List.head?_eq_some_iff.1 hfirst
  rw [literal, hrest, if_pos (by simp)] at h
  cases hinner : unquoted? ('\'' :: rest) with
  | none =>
    rw [hinner] at h
    dsimp only at h
    rw [read_quote] at h
    cases h
  | some inner =>
    rw [hinner] at h
    exact ⟨inner, hrest.trans (eq_quotedBy_of_unquoted? hinner), (Except.ok.inj h).symm⟩

end Reading

/-! ## Tokens of a path -/

/-- A member in some brackets of a path. -/
def MemberToken (text : String) (token : List Char) : Prop :=
  ∃ content, HasBracket (selectorText text.toList) content ∧ token ∈ memberTokens content

/-- The literal of some filter of a path. -/
def LiteralToken (text : String) (token : List Char) : Prop :=
  ∃ content, HasBracket (selectorText text.toList) content ∧ literalToken? content = some token

theorem HasSelector.append {q : Query} {s : Selector} (h : HasSelector q s) (front : Query) :
    HasSelector (front ++ q) s := by
  induction front with
  | nil => exact h
  | cons first front ih => exact ih.cons first

/-- What stands in some brackets of a path is read as a selector of its query. -/
theorem selector_of_parse {text : String} {q : Query} {content : List Char}
    (h : parse text = .ok q) (hbracket : HasBracket (selectorText text.toList) content) :
    ∃ s, HasSelector q s ∧ ∃ fuel path, bracket fuel path content = .ok s := by
  obtain ⟨front, more, path, pos, rfl, hmore⟩ := selectors_of_parseWith h
  obtain ⟨s, hs, fuel, path', hread⟩ := hbracket.selector hmore
  exact ⟨s, hs.append front, fuel, path', hread⟩

section Paths

variable {text : String} {q : Query} {token : List Char} {quote : Char}

theorem members_of_parse (h : parse text = .ok q) (htoken : MemberToken text token)
    (hfirst : token.head? = some quote) (hquote : isQuote quote = true) :
    ∃ name ms, QuotedName token name ∧ HasSelector q (.members ms) ∧
      .name (String.ofList name) ∈ ms := by
  obtain ⟨content, hbracket, hmem⟩ := htoken
  obtain ⟨s, hs, fuel, path, hread⟩ := selector_of_parse h hbracket
  obtain ⟨name, ms, hname, rfl, hms⟩ := members_of_bracket hread hmem hfirst hquote
  exact ⟨name, ms, hname, hs, hms⟩

theorem comparison_of_parse (h : parse text = .ok q) (htoken : LiteralToken text token)
    (hfirst : token.head? = some '\'') :
    ∃ inner relative op, token = quotedBy '\'' inner ∧
      HasSelector q (.filter relative (.compare op (.text (String.ofList inner)))) := by
  obtain ⟨content, hbracket, hliteral⟩ := htoken
  obtain ⟨s, hs, fuel, path, hread⟩ := selector_of_parse h hbracket
  simp only [literalToken?, Option.bind_eq_bind, Option.bind_eq_some_iff, Prod.exists,
    Option.some.injEq] at hliteral
  obtain ⟨expression, hexpression, relative, _, hparts, op, written, rfl, rfl⟩ := hliteral
  rw [bracket_of_expression hexpression] at hread
  obtain ⟨_, _, _, query, hparts', -, hfilter⟩ := filter_eq_ok hread
  obtain ⟨rfl, rfl⟩ := Prod.mk.inj (Option.some.inj (hparts.symm.trans hparts'))
  rcases hfilter with ⟨hnone, -⟩ | ⟨_, _, v, hsome, hv, rfl⟩
  · cases hnone
  · cases hsome
    obtain ⟨inner, hinner, rfl⟩ := literal_of_quote hv hfirst
    exact ⟨inner, query, op, hinner, hs⟩

end Paths

/-- In a path that is read, a quote stands again behind the first one of a quoted member, and the
    member is read as a name that depends on what follows. A literal that begins with a single
    quote ends with another one, and is read as all that stands between them. -/
theorem quoted_tokens (text : String) : Ensures (parse text)
    (fun q =>
      (∀ token quote, MemberToken text token → token.head? = some quote → isQuote quote = true →
        ∃ name ms, QuotedName token name ∧ HasSelector q (.members ms) ∧
          .name (String.ofList name) ∈ ms) ∧
      ∀ token, LiteralToken text token → token.head? = some '\'' →
        ∃ inner relative op, token = quotedBy '\'' inner ∧
          HasSelector q (.filter relative (.compare op (.text (String.ofList inner)))))
    (FailsQuery text.toList) := by
  have hfails := parse_ensures text
  cases h : parse text with
  | error e =>
    rw [h] at hfails
    exact hfails
  | ok q =>
    exact ⟨fun token quote htoken hfirst hquote => members_of_parse h htoken hfirst hquote,
      fun token htoken hfirst => comparison_of_parse h htoken hfirst⟩

/-! ## Comparisons that are joined -/

theorem expression?_parentheses (cs : List Char) :
    expression? ('?' :: '(' :: (cs ++ [')'])) = some cs := by
  have hopened : trim ('(' :: (cs ++ [')'])) = '(' :: (cs ++ [')']) := by
    rw [trim_cons (by decide), trimEnd_concat (c := ')') rfl]
  have hcontent : trim ('?' :: '(' :: (cs ++ [')'])) = '?' :: '(' :: (cs ++ [')']) := by
    rw [trim_cons (by decide), trimEnd, dropEndWhile_cons (by decide), ← trimEnd,
      trimEnd_concat (c := ')') rfl]
  simp [expression?, hcontent, hopened]

/-- What a filter compares with is its literal, if the scanner passes over it. -/
theorem literalToken_comparingPath (op : Comparison) {t : List Char} (htrim : trim t = t)
    (hpass : t.foldlM Place.pass (.outside 1) = some (.outside 1)) :
    LiteralToken (comparingPath op t) t := by
  refine ⟨'?' :: '(' :: (comparing op ++ t ++ [')']), ?_, ?_⟩
  · have hroot : trim (comparingPath op t).toList =
        '$' :: '[' :: '?' :: '(' :: (comparing op ++ (t ++ [')', ']'])) := by
      rw [toList_comparingPath, trim_cons (by decide), trimEnd_comparing]
    rw [selectorText, hroot]
    exact .first (closing_comparing_of_passed op hpass)
  · have hblank : trim (' ' :: t) = trim t := rfl
    rw [literalToken?, expression?_parentheses]
    simp [filterParts?_comparing, hblank, htrim]

/-- Two texts in single quotes and what stands between them. -/
def joinedTexts (first between second : List Char) : List Char :=
  quotedBy '\'' first ++ between ++ quotedBy '\'' second

section Joined

variable {first between second : List Char}

theorem joinedTexts_eq : joinedTexts first between second =
    quotedBy '\'' (first ++ '\'' :: (between ++ '\'' :: second)) := by
  simp [joinedTexts, quotedBy]

theorem literal_quotedBy (text : List Char) :
    literal (' ' :: quotedBy '\'' text) = .ok (.text (String.ofList text)) := by
  have hblank : trim (' ' :: quotedBy '\'' text) = trim (quotedBy '\'' text) := rfl
  rw [literal, hblank, trim_quotedBy rfl, if_pos (by simp [quotedBy]), unquoted?_quotedBy rfl]

theorem foldlM_joined (hfirst : '\'' ∉ first) (hsecond : '\'' ∉ second)
    (hbetween : between.foldlM Place.pass (.outside 1) = some (.outside 1)) :
    (joinedTexts first between second).foldlM Place.pass (.outside 1) = some (.outside 1) := by
  have hquoted : ∀ {cs : List Char}, '\'' ∉ cs →
      (quotedBy '\'' cs).foldlM Place.pass (.outside 1) = some (.outside 1) :=
    fun h => Place.foldlM_quoted rfl 1 (Place.foldlM_inside rfl 1 h)
  rw [joinedTexts, List.foldlM_append, List.foldlM_append, hquoted hfirst]
  simp only [Option.bind_eq_bind, Option.bind_some, hbetween]
  exact hquoted hsecond

/-- A comparison with a text that goes on with another comparison is read as one comparison, with
    the text from the first quote to the last one. -/
theorem parse_joined (op : Comparison) (first between second : List Char)
    (hfirst : '\'' ∉ first) (hsecond : '\'' ∉ second)
    (hbetween : between.foldlM Place.pass (.outside 1) = some (.outside 1)) :
    parse (comparingPath op (joinedTexts first between second)) = .ok
      [comparison op (.text (String.ofList (first ++ '\'' :: (between ++ '\'' :: second))))] := by
  refine parse_of_literal op ?_ (foldlM_joined hfirst hsecond hbetween)
  rw [joinedTexts_eq]
  exact literal_quotedBy _

theorem literalToken_joined (op : Comparison) (first between second : List Char)
    (hfirst : '\'' ∉ first) (hsecond : '\'' ∉ second)
    (hbetween : between.foldlM Place.pass (.outside 1) = some (.outside 1)) :
    LiteralToken (comparingPath op (joinedTexts first between second))
      (joinedTexts first between second) := by
  refine literalToken_comparingPath op ?_ (foldlM_joined hfirst hsecond hbetween)
  rw [joinedTexts_eq]
  exact trim_quotedBy rfl _

/-- A joined literal is not complete, since the quote stands inside of it as well. -/
theorem not_isComplete_joined : ¬ IsComplete (joinedTexts first between second) := by
  rintro ⟨quote, text, -, hfree, htoken⟩
  rw [joinedTexts_eq, quotedBy, quotedBy, List.cons.injEq] at htoken
  obtain ⟨rfl, htext⟩ := htoken
  rw [← List.append_cancel_right htext] at hfree
  simp at hfree

end Joined

/-- A member with a character behind its closing quote is a name with the quotes in it, and a second
    comparison is a part of the text that the first one compares with. -/
theorem quoted_tokens_read :
    MemberToken "$['a'b]" "'a'b".toList ∧ parse "$['a'b]" = .ok [.members [.name "'a'b"]] ∧
    (∃ name ms, QuotedName "'a'b".toList name ∧
      HasSelector [.members [.name "'a'b"]] (.members ms) ∧ .name (String.ofList name) ∈ ms) ∧
    ∃ token, LiteralToken "$[?(@.a == 'x' && @.b == 'y')]" token ∧ token.head? = some '\'' ∧
      ∃ inner relative op, token = quotedBy '\'' inner ∧
        HasSelector [comparison .eq (.text "x' && @.b == 'y")]
          (.filter relative (.compare op (.text (String.ofList inner)))) := by
  have hmember : MemberToken "$['a'b]" "'a'b".toList := ⟨"'a'b".toList, .first rfl, by decide⟩
  have hread : parse "$['a'b]" = .ok [.members [.name "'a'b"]] := by cbv
  have hliteral := literalToken_joined .eq "x".toList " && @.b == ".toList "y".toList (by decide)
    (by decide) rfl
  have hjoined := parse_joined .eq "x".toList " && @.b == ".toList "y".toList (by decide)
    (by decide) rfl
  refine ⟨hmember, hread, ?_, _, hliteral, rfl, ?_⟩
  · exact ((quoted_tokens _).of_ok hread).1 _ '\'' hmember rfl rfl
  · exact ((quoted_tokens _).of_ok hjoined).2 _ hliteral rfl

/-- Tokens that are read need not be complete. -/
theorem token_not_complete : ¬ ∀ text q, parse text = .ok q →
    (∀ token quote, MemberToken text token → token.head? = some quote → isQuote quote = true →
      IsComplete token) ∧
    ∀ token, LiteralToken text token → token.head? = some '\'' → IsComplete token := by
  intro hall
  have hliteral := literalToken_joined .eq "x".toList " && @.b == ".toList "y".toList (by decide)
    (by decide) rfl
  have hjoined := parse_joined .eq "x".toList " && @.b == ".toList "y".toList (by decide)
    (by decide) rfl
  exact not_isComplete_joined ((hall _ _ hjoined).2 _ hliteral rfl)

end ApiJourney.Query
