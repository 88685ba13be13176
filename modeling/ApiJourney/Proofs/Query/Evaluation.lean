-- SUMMARY: The faults that looking for the matches of a query can end with.
import ApiJourney.Proofs.Query.Parser
import ApiJourney.Proofs.Query.Scanner
import ApiJourney.Query.Evaluation

/-!
# Faults of queries

Applying a query fails only at a name that stands for the position of an item and has too many
digits. A position in the text of a query that has too many digits always fails.
-/

namespace ApiJourney.Query

open Text

/-! ## Matches -/

section Evaluation

variable {source : List Char}

theorem memberOf_ensures {m : Member} (h : ∀ k, m = .name k → Within source k.toList)
    (node : Value) :
    Ensures (memberOf node m) (fun _ => True)
      (fun f => f = .badValue ∧ Numeral.LongDigits source) := by
  unfold memberOf
  split
  · trivial
  · refine Ensures.map (Ensures.imp (P := fun _ => True) ?_ (fun _ h => h) fun _ h => h)
    unfold listPosition?
    split
    · trivial
    · next k =>
      split_ifs with hk
      · exact ((integerOf_ensures hk).imp (fun _ h => h) fun f hf =>
          ⟨hf.1, (h k rfl).digits hf.2⟩).map
      · trivial
  · trivial

mutual

/-- A selector is applied, or a name in it has too many digits. -/
theorem select_ensures : ∀ (s : Selector) (nodes : List Value),
    (s.AllNames fun k => Within source k.toList) →
    Ensures (select s nodes) (fun _ => True) (fun f => f = .badValue ∧ Numeral.LongDigits source)
  | .members ms, nodes, h => by
    rw [select]
    exact .flatMapM fun node _ => .flatMapM fun m hm =>
      memberOf_ensures (fun k hk => h k (hk ▸ hm)) node
  | .wildcard, nodes, _ => by
    rw [select]
    trivial
  | .slice _ _ _, nodes, _ => by
    rw [select]
    trivial
  | .filter relative test, nodes, h => by
    rw [select]
    exact .flatMapM fun node _ => .filterM fun child _ =>
      (matchesFrom_ensures relative [child] h).bind fun _ _ => trivial
  | .descend s, nodes, h => by
    rw [select]
    exact select_ensures s _ h

theorem matchesFrom_ensures : ∀ (q : List Selector) (nodes : List Value),
    (AllNames (fun k => Within source k.toList) q) →
    Ensures (matchesFrom q nodes) (fun _ => True)
      (fun f => f = .badValue ∧ Numeral.LongDigits source)
  | [], nodes, _ => by
    rw [matchesFrom]
    trivial
  | s :: rest, nodes, h => by
    rw [matchesFrom]
    refine (select_ensures s nodes h.1).bind fun selected _ => ?_
    split_ifs
    · trivial
    · exact matchesFrom_ensures rest selected h.2

end

end Evaluation

/-- The matches of a path are found, or the path is refused with a message, has too many digits
    in a row or nests too deeply. -/
theorem evaluate_ensures (path : String) (document : Value) :
    Ensures (evaluate path document) (fun _ => True) (FailsQuery path.toList) :=
  (parse_ensures path).bind fun q hq =>
    ((matchesFrom_ensures q [document] hq).imp (fun _ h => h) fun _ hf => .inl hf).mapError

/-! ## Positions that are too long -/

section Digits

variable {ds : List Char} (hds : ∀ c ∈ ds, isDecimal c = true)
include hds

theorem closing_digits (rest : List Char) :
    closing none 0 [] (ds ++ ']' :: rest) = .closed ds rest := by
  refine Place.closing_of_content (Place.foldlM_of_not_moves (fun c hc => ?_) _) rest
  have hne := fun d => beq_of_isDecimal (d := d) (hds c hc)
  simp [Place.moves, isQuote, hne '\'' (by decide), hne '"' (by decide), hne '[' (by decide),
    hne '(' (by decide), hne ']' (by decide), hne ')' (by decide)]

theorem splitUnquoted_digits : splitUnquoted ',' none ds = (ds, [], none) := by
  induction ds with
  | nil => rfl
  | cons c ds ih =>
    rw [List.forall_mem_cons] at hds
    have hne := fun d => beq_of_isDecimal (d := d) hds.1
    rw [splitUnquoted]
    simp only [isQuote, hne '\'' (by decide), hne '"' (by decide), hne ',' (by decide), ih hds.2]
    rfl

theorem trim_digits : trim ds = ds :=
  trim_of_ends (fun c hc => isBlank_of_isDecimal (hds c (List.mem_of_mem_head? hc)))
    fun c hc => isBlank_of_isDecimal (hds c (List.mem_of_mem_getLast? hc))

theorem member_longIndex (path : String) (hlong : Numeral.maxDigits < ds.length) :
    member path ds ds = .error (.fault .badValue) := by
  have hne : ds ≠ [] := by
    rintro rfl
    exact absurd hlong (Nat.not_lt_zero _)
  have hinteger : isIntegerText ds = true :=
    isIntegerText_iff.2 ⟨[], ds, [], by simp, .inl rfl, .inl rfl, hne, hds⟩
  have hunread : Numeral.integer? 10 ds = none :=
    (Numeral.integer?_bareDigits hne hds).2 hlong
  obtain ⟨c, rest, rfl⟩ := List.exists_cons_of_ne_nil hne
  have hquote : isQuote c = false := by
    have hc := hds c List.mem_cons_self
    rw [isQuote, beq_of_isDecimal hc (by decide), beq_of_isDecimal hc (by decide)]
    rfl
  unfold member
  rw [trim_digits hds]
  simp [hquote, hinteger, position, integerOf, hunread, Except.mapError, Except.map]

theorem bracket_longIndex (fuel : Nat) (path : String) (hlong : Numeral.maxDigits < ds.length) :
    bracket fuel path ds = .error (.fault .badValue) := by
  obtain ⟨c, rest, hcons⟩ : ∃ c rest, ds = c :: rest := by
    cases ds with
    | nil => exact absurd hlong (Nat.not_lt_zero _)
    | cons c rest => exact ⟨c, rest, rfl⟩
  have hc : isDecimal c = true := hds c (hcons ▸ List.mem_cons_self)
  have hcolon : ds.contains ':' = false := by
    rw [List.contains_eq_mem, decide_eq_false_iff_not]
    intro hmem
    exact absurd (hds ':' hmem) (by decide)
  rw [bracket, trim_digits hds]
  split
  · cases hcons
  · exact absurd (hds '*' List.mem_cons_self) (by decide)
  · exact absurd (hds '?' List.mem_cons_self) (by decide)
  · rw [splitUnquoted_digits hds]
    dsimp only
    rw [hcolon]
    simp [List.mapM_cons, member_longIndex hds path hlong]
    rfl

/-- A position with too many digits is a fault. -/
theorem parse_longIndex (hlong : Numeral.maxDigits < ds.length) :
    parse (String.ofList ('$' :: '[' :: (ds ++ [']']))) = .error (.fault .badValue) := by
  have htrim : trim ('$' :: '[' :: (ds ++ [']'])) = '$' :: '[' :: (ds ++ [']']) := by
    refine trim_of_ends (by simp; decide) ?_
    rw [← List.cons_append, ← List.cons_append, List.getLast?_concat]
    simp; decide
  have hopen : ∀ fuel path, selectors (fuel + 1) path 1 ('[' :: (ds ++ [']'])) =
      bracketed fuel path 1 (ds ++ [']']) id := fun fuel path => by rw [selectors]
  rw [parse, String.toList_ofList, parseWith, htrim]
  refine (hopen _ _).trans ?_
  rw [bracketed, closing_digits hds]
  dsimp only
  rw [bracket_longIndex hds _ _ hlong]
  rfl

end Digits

end ApiJourney.Query
