-- SUMMARY: A path with another one behind it finds what the other finds below its own matches.
import ApiJourney.Proofs.Query.Evaluation
import ApiJourney.Proofs.Query.Fronts

/-!
# Composition of queries

A path that is continued by a suffix is read as the selectors of both, and its matches are the
matches of the suffix below each match of the path, in order. Every selector maps a list of nodes
node by node, so that a query that is applied to several nodes at once matches what it matches
below each of them; that it ends early where nothing is left makes no difference.
-/

namespace ApiJourney

namespace Query

open Text

/-! ## Paths that are continued -/

section Texts

variable {fuel : Nat} {c : Char} {cs : List Char}

/-- A text that starts with a point or a bracket is read as what follows the root. -/
theorem parseWith_of_starts (htrim : trim (c :: cs) = c :: cs)
    (hc : (c == '.' || c == '[') = true) :
    parseWith fuel (c :: cs) = selectors fuel (String.ofList (c :: cs)) 0 (c :: cs) := by
  rw [parseWith, htrim]
  split
  · next hnil => cases hnil
  · next rest hroot =>
    cases hroot
    exact absurd hc (by decide)
  · next c' rest _ hcons =>
    cases hcons
    exact if_pos hc

/-- A text that starts otherwise is read as a name and what follows it. -/
theorem parseWith_of_name (htrim : trim (c :: cs) = c :: cs) (hroot : c ≠ '$')
    (hc : (c == '.' || c == '[') = false) :
    parseWith fuel (c :: cs) =
      (if ((c :: cs).takeWhile isNameChar).isEmpty then
        refuse (.unexpected c 0 (String.ofList (c :: cs)))
      else do
        let more ← selectors fuel (String.ofList (c :: cs)) ((c :: cs).takeWhile isNameChar).length
          ((c :: cs).dropWhile isNameChar)
        .ok (named ((c :: cs).takeWhile isNameChar) :: more)) := by
  rw [parseWith, htrim]
  split
  · next hnil => cases hnil
  · next rest heq =>
    cases heq
    exact absurd rfl hroot
  · next c' rest _ hcons =>
    cases hcons
    exact if_neg (by rw [hc]; exact Bool.false_ne_true)

end Texts

/-- A text without blanks at its ends and a rest are read one after the other, if the rest is
    read behind a root. -/
theorem parseWith_append {fuel fuel' m : Nat} {path : String} {cs rest : List Char} {p s : Query}
    (hcs : trim cs = cs) (hp : parseWith fuel cs = .ok p)
    (hs : selectors m path 1 rest = .ok s) (hends : Ends rest)
    (hwhole : trim (cs ++ rest) = cs ++ rest) (hfuel : (cs ++ rest).length ≤ fuel') :
    parseWith fuel' (cs ++ rest) = .ok (p ++ s) := by
  rw [List.length_append] at hfuel
  -- What is left of the text when its start is taken off is followed by the rest.
  have happend : ∀ {path' pos left q}, left.length ≤ cs.length →
      selectors fuel path' pos left = .ok q → ∀ path' pos',
        selectors fuel' path' pos' (left ++ rest) = .ok (q ++ s) := by
    intro _ _ left q hleft hq path' pos'
    refine selectors_append hq hs hends ?_ pos'
    rw [List.length_append]
    omega
  cases cs with
  | nil =>
    rw [parseWith, hcs] at hp
    cases hp
  | cons c cs =>
    by_cases hroot : c = '$'
    · subst hroot
      rw [parseWith, hcs] at hp
      rw [parseWith, hwhole]
      exact happend (Nat.le_succ _) hp _ _
    rw [List.cons_append] at hwhole
    cases hc : c == '.' || c == '[' with
    | true =>
      rw [parseWith_of_starts hcs hc] at hp
      rw [List.cons_append, parseWith_of_starts hwhole hc]
      exact happend le_rfl hp _ _
    | false =>
      rw [parseWith_of_name hcs hroot hc] at hp
      split_ifs at hp with hempty
      · cases hp
      obtain ⟨more, hmore, hp⟩ := bind_eq_ok.1 hp
      rw [List.cons_append, parseWith_of_name hwhole hroot hc, ← List.cons_append,
        takeWhile_append_ends hends, dropWhile_append_ends hends, if_neg hempty,
        happend (List.dropWhile_suffix _).length_le hmore, ← Except.ok.inj hp]
      rfl

/-- A path and its continuation are read as the selectors of both. -/
theorem parse_append {path suffix : String} {p s : Query}
    (hpath : trim path.toList = path.toList) (hp : parse path = .ok p)
    (hfirst : suffix.toList.head? = some '.' ∨ suffix.toList.head? = some '[')
    (hsuffix : trimEnd suffix.toList = suffix.toList) (hs : parse ("$" ++ suffix) = .ok s) :
    parse (path ++ suffix) = .ok (p ++ s) := by
  have hends : Ends suffix.toList := by
    rcases hfirst with hfirst | hfirst <;> simp [Ends, hfirst, isNameChar]
  have hroot : selectors (("$" ++ suffix).length + 1) (String.ofList ('$' :: suffix.toList)) 1
      suffix.toList = .ok s := by
    have hread := parseWith_root (("$" ++ suffix).length + 1) suffix.toList
    rw [hsuffix] at hread
    rw [parse, String.toList_append] at hs
    exact hread.symm.trans hs
  -- The path ends in no blank and the suffix starts with none, so trimming takes nothing away.
  have hwhole : trim (path.toList ++ suffix.toList) = path.toList ++ suffix.toList := by
    refine trim_of_ends (fun c hc => ?_) (fun c hc => ?_)
    · rw [List.head?_append] at hc
      cases hhead : path.toList.head? with
      | none =>
        rw [hhead] at hc
        rcases hfirst with hfirst | hfirst <;> rw [hfirst] at hc <;> cases hc <;> decide
      | some c' =>
        rw [hhead] at hc
        cases hc
        exact (not_isBlank_of_trim hpath).1 c hhead
    · rw [List.getLast?_append] at hc
      cases hlast : suffix.toList.getLast? with
      | none =>
        rw [List.getLast?_eq_none_iff.1 hlast] at hfirst
        rcases hfirst with hfirst | hfirst <;> cases hfirst
      | some c' =>
        rw [hlast] at hc
        cases hc
        exact not_isBlank_of_trimEnd hsuffix c hlast
  rw [parse, String.toList_append]
  refine parseWith_append hpath hp hroot hends hwhole ?_
  rw [← String.toList_append, String.length_toList]
  exact Nat.le_succ _

/-! ## Nodes one by one -/

theorem flatMapM_append (f : α → Except ε (List β)) (xs ys : List α) :
    (xs ++ ys).flatMapM f = (do
      let found ← xs.flatMapM f
      let more ← ys.flatMapM f
      .ok (found ++ more)) := by
  induction xs with
  | nil =>
    rw [List.nil_append]
    cases ys.flatMapM f <;> rfl
  | cons x xs ih =>
    rw [List.cons_append, List.flatMapM_cons, List.flatMapM_cons, ih]
    cases f x with
    | error e => rfl
    | ok own =>
      cases xs.flatMapM f with
      | error e => rfl
      | ok found =>
        cases ys.flatMapM f with
        | error e => rfl
        | ok more => exact congrArg Except.ok (List.append_assoc own found more).symm

theorem select_append : ∀ (s : Selector) (xs ys : List Value),
    select s (xs ++ ys) = do
      let found ← select s xs
      let more ← select s ys
      .ok (found ++ more)
  | .members ms, xs, ys => by
    rw [select, select, select]
    exact flatMapM_append _ xs ys
  | .wildcard, xs, ys => by
    rw [select, select, select, List.flatMap_append]
    rfl
  | .slice start stop step, xs, ys => by
    rw [select, select, select, List.flatMap_append]
    rfl
  | .filter relative test, xs, ys => by
    rw [select, select, select]
    exact flatMapM_append _ xs ys
  | .descend s, xs, ys => by
    rw [select, select, select, List.flatMap_append]
    exact select_append s _ _

theorem select_nil : ∀ s : Selector, select s [] = .ok []
  | .members _ => by rw [select]; rfl
  | .wildcard => by rw [select]; rfl
  | .slice _ _ _ => by rw [select]; rfl
  | .filter _ _ => by rw [select]; rfl
  | .descend s => by rw [select]; exact select_nil s

theorem matchesFrom_nil : ∀ q : Query, matchesFrom q [] = .ok []
  | [] => by rw [matchesFrom]
  | s :: q => by
    rw [matchesFrom, select_nil]
    rfl

/-- Ending early where nothing is left makes no difference. -/
theorem matchesFrom_cons (s : Selector) (q : Query) (nodes : List Value) :
    matchesFrom (s :: q) nodes = select s nodes >>= matchesFrom q := by
  rw [matchesFrom]
  refine bind_congr fun selected => ?_
  split_ifs with hempty
  · rw [List.isEmpty_iff.1 hempty, matchesFrom_nil]
  · rfl

/-- The selectors of two queries are applied one after the other. -/
theorem matchesFrom_append_query (p q : Query) (nodes : List Value) :
    matchesFrom (p ++ q) nodes = matchesFrom p nodes >>= matchesFrom q := by
  induction p generalizing nodes with
  | nil => rfl
  | cons s p ih =>
    rw [List.cons_append, matchesFrom_cons, matchesFrom_cons, bind_assoc]
    exact bind_congr ih

section Nodes

variable {source : List Char} {q : Query}

theorem fault_of_select {s : Selector} (hs : s.AllNames fun k => Within source k.toList)
    {nodes : List Value} {f : Fault} (h : select s nodes = .error f) : f = .badValue :=
  ((select_ensures s nodes hs).of_error h).1

/-- A query that fails does so in one way only. -/
theorem fault_of_matchesFrom (hq : AllNames (fun k => Within source k.toList) q)
    {nodes : List Value} {f : Fault} (h : matchesFrom q nodes = .error f) : f = .badValue :=
  ((matchesFrom_ensures q nodes hq).of_error h).1

/-- What is matched below several nodes is what is matched below the first ones, and then below
    the others. -/
theorem matchesFrom_append (hq : AllNames (fun k => Within source k.toList) q)
    (xs ys : List Value) :
    matchesFrom q (xs ++ ys) = (do
      let found ← matchesFrom q xs
      let more ← matchesFrom q ys
      .ok (found ++ more)) := by
  induction q generalizing xs ys with
  | nil =>
    simp only [matchesFrom]
    rfl
  | cons s q ih =>
    rw [matchesFrom_cons, matchesFrom_cons, matchesFrom_cons, select_append]
    cases hx : select s xs with
    | error f => rfl
    | ok a =>
      cases hy : select s ys with
      | error f =>
        -- The later fault of the second nodes is the same as an earlier one of the first nodes.
        obtain rfl := fault_of_select hq.1 hy
        change _ = matchesFrom q a >>= fun _ => .error .badValue
        cases ha : matchesFrom q a with
        | error f =>
          obtain rfl := fault_of_matchesFrom hq.2 ha
          rfl
        | ok found => rfl
      | ok b => exact ih hq.2 a b

/-- What is matched below several nodes is what is matched below each of them. -/
theorem matchesFrom_eq_flatMapM (hq : AllNames (fun k => Within source k.toList) q)
    (nodes : List Value) :
    matchesFrom q nodes = nodes.flatMapM fun node => matchesFrom q [node] := by
  induction nodes with
  | nil => exact matchesFrom_nil q
  | cons node nodes ih =>
    rw [List.flatMapM_cons, ← ih]
    exact matchesFrom_append hq [node] nodes

end Nodes

/-! ## Matches -/

theorem mapError_bind (r : Except ε α) (f : α → Except ε β) (g : ε → δ) :
    (r >>= f).mapError g = r.mapError g >>= fun a => (f a).mapError g := by
  cases r <;> rfl

theorem mapError_flatMapM (f : α → Except ε (List β)) (g : ε → δ) (xs : List α) :
    (xs.flatMapM f).mapError g = xs.flatMapM fun x => (f x).mapError g := by
  induction xs with
  | nil => rfl
  | cons x xs ih =>
    rw [List.flatMapM_cons, List.flatMapM_cons, mapError_bind, ← ih]
    refine bind_congr fun own => ?_
    rw [mapError_bind]
    rfl

/-- What a path and its continuation match in a document is what the continuation matches below
    each match of the path, one after the other; and one of these fails only if the other does. -/
theorem evaluate_append {path suffix : String} {p s : Query}
    (hpath : trim path.toList = path.toList) (hp : parse path = .ok p)
    (hfirst : suffix.toList.head? = some '.' ∨ suffix.toList.head? = some '[')
    (hsuffix : trimEnd suffix.toList = suffix.toList) (hs : parse ("$" ++ suffix) = .ok s) :
    parse (path ++ suffix) = .ok (p ++ s) ∧ ∀ document,
      evaluate (path ++ suffix) document = (do
        let nodes ← evaluate path document
        nodes.flatMapM (evaluate ("$" ++ suffix))) := by
  have hparse := parse_append hpath hp hfirst hsuffix hs
  have hnames := (parse_ensures _).of_ok hs
  refine ⟨hparse, fun document => ?_⟩
  have hsuffix' :
      evaluate ("$" ++ suffix) = fun node => (matchesFrom s [node]).mapError .fault := by
    funext node
    rw [evaluate, hs]
    rfl
  calc evaluate (path ++ suffix) document
      = (matchesFrom (p ++ s) [document]).mapError .fault := by
        rw [evaluate, hparse]
        rfl
    _ = (matchesFrom p [document]).mapError .fault >>= fun nodes =>
          (matchesFrom s nodes).mapError .fault := by
        rw [matchesFrom_append_query, mapError_bind]
    _ = (matchesFrom p [document]).mapError .fault >>= fun nodes =>
          nodes.flatMapM (evaluate ("$" ++ suffix)) := by
        refine bind_congr fun nodes => ?_
        rw [matchesFrom_eq_flatMapM hnames, mapError_flatMapM, hsuffix']
    _ = evaluate path document >>= fun nodes => nodes.flatMapM (evaluate ("$" ++ suffix)) := by
        conv_rhs => rw [evaluate, hp]
        rfl

/-- The filter of a suffix tests what is matched below the path. -/
theorem evaluate_append_filter :
    parse ("$.a[0]" ++ "..b[?(@.c>'x')]") = .ok ([named ['a'], .members [.index 0]] ++
      [.descend (named ['b']), .filter [named ['c']] (.compare .gt (.text "x"))]) ∧
    ∀ document, evaluate ("$.a[0]" ++ "..b[?(@.c>'x')]") document = (do
      let nodes ← evaluate "$.a[0]" document
      nodes.flatMapM (evaluate ("$" ++ "..b[?(@.c>'x')]"))) :=
  evaluate_append (by decide) (by cbv) (.inl (by decide)) (by decide) (by cbv)

end Query

end ApiJourney
