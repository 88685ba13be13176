-- SUMMARY: Members behind a point, in brackets and in front of a path are the same members.
import ApiJourney.Proofs.Query.Brackets
import ApiJourney.Proofs.Query.Composition

/-!
# Spellings of members

A name without points, brackets and quotes can be written behind a point or between quotes in
brackets, and at the front of a path also by itself. An integer can be written as a position or as
a name. All spellings select the same members: an object finds a position under its digits, and a
list reads a name of digits as a position.
-/

namespace ApiJourney.Query

open Text Numeral

/-! ## Plain names -/

/-- A name that can stand behind a point: it runs up to the end of the path, is not trimmed and is
    not taken for a star. -/
structure PlainName (name : String) : Prop where
  ne_nil : name.toList ≠ []
  chars : ∀ c ∈ name.toList, isNameChar c = true
  trimmed : trim name.toList = name.toList
  star : name.toList.head? ≠ some '*'

theorem named_toList (name : String) : named name.toList = .members [.name name] := by
  rw [named, String.ofList_toList]

namespace PlainName

variable {name : String}

theorem takeWhile_eq (h : PlainName name) : name.toList.takeWhile isNameChar = name.toList :=
  List.takeWhile_eq_self_iff.2 h.chars

theorem dropWhile_eq (h : PlainName name) : name.toList.dropWhile isNameChar = [] :=
  List.dropWhile_eq_nil_iff.2 h.chars

theorem takeWhile_ne_nil (h : PlainName name) : name.toList.takeWhile isNameChar ≠ [] := by
  rw [h.takeWhile_eq]
  exact h.ne_nil

/-- Behind a point a plain name is read as a member. -/
theorem front (h : PlainName name) (reads : List Char → Selector → Prop) :
    Front reads ('.' :: name.toList) (.members [.name name]) [] := by
  have hread : Front reads ('.' :: name.toList) _ _ := .name h.star h.takeWhile_ne_nil
  rwa [h.takeWhile_eq, h.dropWhile_eq, named_toList] at hread

/-- Behind two points it is read as a member of every node below. -/
theorem frontBelow (h : PlainName name) (reads : List Char → Selector → Prop) :
    Front reads ('.' :: '.' :: name.toList) (.descend (.members [.name name])) [] := by
  have hread : Front reads ('.' :: '.' :: name.toList) _ _ := .nameBelow h.star h.takeWhile_ne_nil
  rwa [h.takeWhile_eq, h.dropWhile_eq, named_toList] at hread

end PlainName

/-- An integer is a plain name. -/
theorem plainName_toString (n : Int) : PlainName (toString n) := by
  have hne : (toString n).toList ≠ [] := by
    rw [toList_toString]
    simp [digitsOf_ne_nil]
  have hplain : ∀ c ∈ plainChars, isNameChar c = true ∧ c ≠ '*' := by
    simp [plainChars, isNameChar]
  refine ⟨hne, fun c hc => (hplain c (mem_plainChars hc)).1, ?_, fun hstar => ?_⟩
  · exact (Piece.plain fun c hc => mem_plainChars hc).trim_eq
  · exact (hplain '*' (mem_plainChars (List.mem_of_mem_head? hstar))).2 rfl

/-! ## Suffixes -/

/-- A text that goes on a path by one selector. -/
structure Suffix (suffix : String) (s : Selector) : Prop where
  first : suffix.toList.head? = some '.' ∨ suffix.toList.head? = some '['
  ends : trimEnd suffix.toList = suffix.toList
  read : parse ("$" ++ suffix) = .ok [s]

/-- A root with one selector behind it is read. -/
theorem parse_of_front {suffix : String} {s : Selector}
    (hend : trimEnd suffix.toList = suffix.toList)
    (h : ∀ fuel path,
      Front (fun content s => bracket fuel path content = .ok s) suffix.toList s []) :
    parse ("$" ++ suffix) = .ok [s] := by
  have hroot : ("$" ++ suffix).toList = '$' :: suffix.toList := String.toList_append
  rw [parse, hroot, parseWith_root, hend]
  refine selectors_of_front (h _ _) (fun pos => ?_) 1
  rw [selectors]

theorem suffix_point {name : String} (h : PlainName name) :
    Suffix ("." ++ name) (.members [.name name]) := by
  have htext : ("." ++ name).toList = '.' :: name.toList := String.toList_append
  have hend : trimEnd ("." ++ name).toList = ("." ++ name).toList := by
    rw [htext]
    exact (dropEndWhile_cons (by decide) _).trans (congrArg _ (trimEnd_of_trim h.trimmed))
  refine ⟨.inl (by rw [htext]; rfl), hend, parse_of_front hend fun fuel path => ?_⟩
  rw [htext]
  exact h.front _

theorem suffix_bracket {suffix : String} {t : List Char} {m : Member} (h : MemberText m t)
    (htext : suffix.toList = '[' :: (t ++ [']'])) : Suffix suffix (.members [m]) := by
  have hend : trimEnd suffix.toList = suffix.toList := by
    rw [htext, ← List.cons_append]
    exact trimEnd_concat (by decide) _
  have hmembers : BracketText (.members [m]) t := .members (List.cons_ne_nil m []) (.cons h .nil)
  refine ⟨.inr (by rw [htext]; rfl), hend, parse_of_front hend fun fuel path => ?_⟩
  rw [htext]
  exact .bracket (closing_of_text hmembers []) (bracket_of_text hmembers fuel path)

theorem suffix_quoted {quote : Char} (hquote : isQuote quote = true) {opened closed name : String}
    (hopened : opened.toList = ['[', quote]) (hclosed : closed.toList = [quote, ']'])
    (hfree : quote ∉ name.toList) : Suffix (opened ++ name ++ closed) (.members [.name name]) := by
  refine suffix_bracket (.name hquote hfree) ?_
  rw [String.toList_append, String.toList_append, hopened, hclosed]
  simp [quotedBy]

theorem suffix_position {n : Int} (h : Short n) :
    Suffix ("[" ++ toString n ++ "]") (.members [.index n]) := by
  refine suffix_bracket (.index h) ?_
  rw [String.toList_append, String.toList_append]
  rfl

/-- A path behind a root goes on with a suffix. -/
theorem Suffix.behind {front suffix : String} {p : Query} {s : Selector} (h : Suffix suffix s)
    (hroot : front.toList.head? = some '$') (hend : trimEnd front.toList = front.toList)
    (hp : parse front = .ok p) : parse (front ++ suffix) = .ok (p ++ [s]) := by
  obtain ⟨cs, hcs⟩ := List.head?_eq_some_iff.1 hroot
  have htrim : trim front.toList = front.toList := by
    rw [hcs] at hend ⊢
    rw [trim_cons (by decide)]
    exact (dropEndWhile_cons (by decide) cs).symm.trans hend
  exact parse_append htrim hp h.first h.ends h.read

/-- A plain name by itself is read as one behind a root, unless it starts as a root does. -/
theorem parse_bare {name : String} (h : PlainName name) (hroot : name.toList.head? ≠ some '$') :
    parse name = .ok [.members [.name name]] := by
  obtain ⟨c, cs, hcs⟩ := List.exists_cons_of_ne_nil h.ne_nil
  have htrim := h.trimmed
  have hne := h.ne_nil
  have hc : isNameChar c = true := h.chars c (hcs ▸ List.mem_cons_self)
  have hstarts : (c == '.' || c == '[') = false := by
    simp only [isNameChar, Bool.and_eq_true, bne_iff_ne] at hc
    simp [hc]
  have hdollar : c ≠ '$' := by
    rintro rfl
    exact hroot (hcs ▸ rfl)
  rw [hcs] at htrim hne
  rw [parse, hcs, parseWith_of_name htrim hdollar hstarts, ← hcs, h.takeWhile_eq, h.dropWhile_eq,
    if_neg (by simp [hcs]), selectors, named_toList]
  rfl

/-! ## Members -/

/-- A position is the member under the name that it is written as, in objects and in lists. -/
theorem memberOf_index {n : Int} (h : Short n) (node : Value) :
    memberOf node (.index n) = memberOf node (.name (toString n)) := by
  have hposition : listPosition? (.name (toString n)) = .ok (some n) := by
    rw [listPosition?, if_pos (isIntegerText_toString n), integerOf, integer?_toString h]
    rfl
  cases node with
  | list xs => rw [memberOf, memberOf, hposition, listPosition?]
  | _ => rfl

/-- Selectors that select the same nodes can stand for each other at the end of a query. -/
theorem matchesFrom_concat {s s' : Selector} (h : ∀ nodes, select s nodes = select s' nodes)
    (q : Query) (nodes : List Value) :
    matchesFrom (q ++ [s]) nodes = matchesFrom (q ++ [s']) nodes := by
  rw [matchesFrom_append_query, matchesFrom_append_query]
  refine bind_congr fun found => ?_
  rw [matchesFrom_cons, matchesFrom_cons, h]

theorem evaluate_of_parse {path : String} {q : Query} (h : parse path = .ok q) (document : Value) :
    evaluate path document = (matchesFrom q [document]).mapError .fault := by
  rw [evaluate, h]
  rfl

/-- Two paths that are both read match the same nodes of every document, in the same order. -/
def SameMatches (path path' : String) : Prop :=
  (∃ q, parse path = .ok q) ∧ (∃ q, parse path' = .ok q) ∧
    ∀ document, evaluate path document = evaluate path' document

theorem SameMatches.of_parse {path path' : String} {q : Query} (h : parse path = .ok q)
    (h' : parse path' = .ok q) : SameMatches path path' :=
  ⟨⟨q, h⟩, ⟨q, h'⟩, fun d => (evaluate_of_parse h d).trans (evaluate_of_parse h' d).symm⟩

/-- A position and the name that it is written as match the same nodes behind a query. -/
theorem SameMatches.of_index {path path' : String} {q : Query} {n : Int} (hn : Short n)
    (h : parse path = .ok (q ++ [.members [.index n]]))
    (h' : parse path' = .ok (q ++ [.members [.name (toString n)]])) : SameMatches path path' := by
  refine ⟨⟨_, h⟩, ⟨_, h'⟩, fun document => ?_⟩
  have hselect : ∀ nodes, select (.members [.index n]) nodes =
      select (.members [.name (toString n)]) nodes := by
    intro nodes
    rw [select, select]
    simp only [List.flatMapM_cons, memberOf_index hn]
  rw [evaluate_of_parse h, evaluate_of_parse h', matchesFrom_concat hselect]

/-! ## Spellings -/

/-- A plain name is the same member behind a point and between either kind of quotes that it does
    not hold, and at the front of a path also by itself; and an integer is the same member as a
    position and as a name. -/
theorem spellings_agree {front : String} {p : Query} (hroot : front.toList.head? = some '$')
    (hend : trimEnd front.toList = front.toList) (hp : parse front = .ok p) :
    (∀ name, PlainName name →
      ('\'' ∉ name.toList →
        SameMatches (front ++ ("." ++ name)) (front ++ ("['" ++ name ++ "']"))) ∧
      ('"' ∉ name.toList →
        SameMatches (front ++ ("." ++ name)) (front ++ ("[\"" ++ name ++ "\"]"))) ∧
      (name.toList.head? ≠ some '$' → SameMatches name ("$." ++ name))) ∧
    ∀ n, Short n →
      SameMatches (front ++ ("[" ++ toString n ++ "]")) (front ++ ("['" ++ toString n ++ "']")) ∧
      SameMatches (front ++ ("[" ++ toString n ++ "]")) (front ++ ("." ++ toString n)) := by
  have hpoint : ∀ {name}, PlainName name →
      parse (front ++ ("." ++ name)) = .ok (p ++ [.members [.name name]]) :=
    fun h => (suffix_point h).behind hroot hend hp
  have hsingle : ∀ {name : String}, '\'' ∉ name.toList →
      parse (front ++ ("['" ++ name ++ "']")) = .ok (p ++ [.members [.name name]]) :=
    fun h => (suffix_quoted (by decide) (by decide) (by decide) h).behind hroot hend hp
  have hdouble : ∀ {name : String}, '"' ∉ name.toList →
      parse (front ++ ("[\"" ++ name ++ "\"]")) = .ok (p ++ [.members [.name name]]) :=
    fun h => (suffix_quoted (by decide) (by decide) (by decide) h).behind hroot hend hp
  have hposition : ∀ {n}, Short n →
      parse (front ++ ("[" ++ toString n ++ "]")) = .ok (p ++ [.members [.index n]]) :=
    fun h => (suffix_position h).behind hroot hend hp
  refine ⟨fun name hname => ⟨fun hfree => ?_, fun hfree => ?_, fun hdollar => ?_⟩,
    fun n hn => ⟨?_, ?_⟩⟩
  · exact .of_parse (hpoint hname) (hsingle hfree)
  · exact .of_parse (hpoint hname) (hdouble hfree)
  · exact .of_parse (parse_bare hname hdollar) (suffix_point hname).read
  · have hfree : '\'' ∉ (toString n).toList := fun hquote =>
      absurd (mem_plainChars hquote) (by decide)
    exact .of_index hn (hposition hn) (hsingle hfree)
  · exact .of_index hn (hposition hn) (hpoint (plainName_toString n))

/-- The spellings behind a path that descends and takes a position. -/
theorem spellings_agree_behindItems :
    "$..items[0]".toList.head? = some '$' ∧
    trimEnd "$..items[0]".toList = "$..items[0]".toList ∧
    parse "$..items[0]" = .ok [.descend (named "items".toList), .members [.index 0]] ∧
    PlainName "first name" ∧ Short (-1) ∧
    SameMatches ("$..items[0]" ++ ("." ++ "first name"))
      ("$..items[0]" ++ ("['" ++ "first name" ++ "']")) ∧
    SameMatches ("$..items[0]" ++ ("." ++ "first name"))
      ("$..items[0]" ++ ("[\"" ++ "first name" ++ "\"]")) ∧
    SameMatches "first name" ("$." ++ "first name") ∧
    SameMatches ("$..items[0]" ++ ("[" ++ toString (-1 : Int) ++ "]"))
      ("$..items[0]" ++ ("['" ++ toString (-1 : Int) ++ "']")) ∧
    SameMatches ("$..items[0]" ++ ("[" ++ toString (-1 : Int) ++ "]"))
      ("$..items[0]" ++ ("." ++ toString (-1 : Int))) := by
  have hroot : "$..items[0]".toList.head? = some '$' := by decide
  have hend : trimEnd "$..items[0]".toList = "$..items[0]".toList := by decide
  have hread : parse "$..items[0]" =
      .ok [.descend (named "items".toList), .members [.index 0]] := by
    cbv
  have hname : PlainName "first name" :=
    ⟨by decide, by simp [isNameChar], by decide, by decide⟩
  have hshort : Short (-1) := short_of_lt (k := 1) (by decide) (by decide)
  obtain ⟨hnames, hpositions⟩ := spellings_agree hroot hend hread
  obtain ⟨hsingle, hdouble, hbare⟩ := hnames "first name" hname
  obtain ⟨hquoted, hpoint⟩ := hpositions (-1) hshort
  exact ⟨hroot, hend, hread, hname, hshort, hsingle (by decide), hdouble (by decide),
    hbare (by decide), hquoted, hpoint⟩

end ApiJourney.Query
