-- SUMMARY: The scanner for closing brackets, as a walk from place to place.
import ApiJourney.Query.Parser
import Mathlib.Tactic.SplitIfs

/-!
# Scanning for a bracket

The end of a bracket is looked for outside of quotes, with the brackets and parentheses that open
on the way closed again. Where the scanner is after each character depends on no more than the
quote that it is in and on how many brackets are open: a text that leaves it where it was takes no
part in the search, whatever is in it.
-/

namespace ApiJourney.Query

/-! ## Places -/

/-- Where the scanner is: outside of quotes or inside of one, in so many brackets more than the
    one whose end it looks for. -/
inductive Place where
  | outside (depth : Nat)
  | inside (quote : Char) (h : isQuote quote = true) (depth : Nat)
  deriving DecidableEq

namespace Place

/-- The scanner's search from a place on. -/
def closing : Place → List Char → List Char → Closing
  | outside depth, seen, cs => Query.closing none depth seen cs
  | inside quote _ depth, seen, cs => Query.closing (some quote) depth seen cs

/-- The place behind a character, unless the search ends there. -/
def pass : Place → Char → Option Place
  | inside quote h depth, c => some (if c == quote then outside depth else inside quote h depth)
  | outside depth, c =>
    if h : isQuote c = true then some (inside c h depth)
    else if c == '[' || c == '(' then some (outside (depth + 1))
    else if c == ']' || c == ')' then
      match depth with
      | 0 => none
      | depth + 1 => some (outside depth)
    else some (outside depth)

variable {p p' : Place} {c : Char} {cs : List Char}

theorem closing_of_pass (h : p.pass c = some p') (seen rest : List Char) :
    p.closing seen (c :: rest) = p'.closing (c :: seen) rest := by
  cases p with
  | inside quote hquote depth =>
    obtain rfl := Option.some.inj h
    rw [closing, Query.closing]
    split_ifs <;> rfl
  | outside depth =>
    rw [closing, Query.closing.eq_def]
    rw [pass.eq_def] at h
    dsimp only at h ⊢
    split_ifs at h with hquote hopen hclose
    · obtain rfl := Option.some.inj h
      exact if_pos hquote
    · obtain rfl := Option.some.inj h
      exact (if_neg hquote).trans (if_pos hopen)
    · cases depth with
      | zero => cases h
      | succ depth =>
        obtain rfl := Option.some.inj h
        exact (if_neg hquote).trans ((if_neg hopen).trans (if_pos hclose))
    · obtain rfl := Option.some.inj h
      exact (if_neg hquote).trans ((if_neg hopen).trans (if_neg hclose))

theorem closing_of_end (h : p.pass c = none) (seen rest : List Char) :
    p.closing seen (c :: rest) = if c == ']' then .closed seen.reverse rest else .unbalanced := by
  cases p with
  | inside quote hquote depth => cases h
  | outside depth =>
    rw [closing, Query.closing.eq_def]
    rw [pass.eq_def] at h
    dsimp only at h ⊢
    split_ifs at h with hquote hopen hclose
    · cases depth with
      | zero => rw [if_neg hquote, if_neg hopen, if_pos hclose]
      | succ depth => cases h

/-- The search goes on behind what it passes over. -/
theorem closing_of_passed (h : cs.foldlM pass p = some p') (seen rest : List Char) :
    p.closing seen (cs ++ rest) = p'.closing (cs.reverse ++ seen) rest := by
  induction cs generalizing p seen with
  | nil =>
    obtain rfl := Option.some.inj h
    rfl
  | cons c cs ih =>
    rw [List.foldlM_cons] at h
    obtain ⟨p₁, hp₁, h⟩ := Option.bind_eq_some_iff.1 h
    rw [List.cons_append, closing_of_pass hp₁, ih h, List.reverse_cons, List.append_assoc,
      List.singleton_append]

/-- A text that leaves the scanner where it starts is what stands in front of the bracket. -/
theorem closing_of_content (h : cs.foldlM pass (outside 0) = some (outside 0)) (rest : List Char) :
    Query.closing none 0 [] (cs ++ ']' :: rest) = .closed cs rest := by
  have hend : pass (outside 0) ']' = none := rfl
  refine (closing_of_passed h [] (']' :: rest)).trans ?_
  rw [closing_of_end hend]
  simp

/-- Where a text is not passed over, the search ends inside of it. -/
theorem closing_of_stop (h : cs.foldlM pass p = none) (seen rest : List Char) :
    p.closing seen (cs ++ rest) = .unbalanced ∨
    ∃ front left, front <+: cs ∧
      p.closing seen (cs ++ rest) = .closed (seen.reverse ++ front) left := by
  induction cs generalizing p seen with
  | nil => cases h
  | cons c cs ih =>
    rw [List.cons_append]
    cases hp : p.pass c with
    | none =>
      rw [closing_of_end hp]
      split_ifs
      · exact .inr ⟨[], cs ++ rest, List.nil_prefix, by rw [List.append_nil]⟩
      · exact .inl rfl
    | some p' =>
      rw [List.foldlM_cons, hp] at h
      rw [closing_of_pass hp]
      refine (ih h (c :: seen)).imp_right fun ⟨front, left, hfront, hclosed⟩ => ?_
      refine ⟨c :: front, left, List.cons_prefix_cons.2 ⟨rfl, hfront⟩, ?_⟩
      rw [hclosed, List.reverse_cons, List.append_assoc, List.singleton_append]

/-! ## Characters -/

/-- Whether a character is one that moves the scanner. -/
def moves (c : Char) : Bool :=
  isQuote c || c == '[' || c == '(' || c == ']' || c == ')'

theorem pass_of_not_moves (h : moves c = false) (p : Place) : p.pass c = some p := by
  simp only [moves, Bool.or_eq_false_iff] at h
  obtain ⟨⟨⟨⟨hquote, hsquare⟩, hround⟩, hsquare'⟩, hround'⟩ := h
  cases p with
  | inside quote h depth =>
    have hother : (c == quote) = false := by
      refine beq_false_of_ne ?_
      rintro rfl
      rw [h] at hquote
      cases hquote
    rw [pass, hother, if_neg Bool.false_ne_true]
  | outside depth => simp [pass, hquote, hsquare, hround, hsquare', hround']

theorem foldlM_of_not_moves (h : ∀ c ∈ cs, moves c = false) (p : Place) :
    cs.foldlM pass p = some p := by
  induction cs with
  | nil => rfl
  | cons c cs ih =>
    rw [List.forall_mem_cons] at h
    rw [List.foldlM_cons, pass_of_not_moves h.1]
    exact ih h.2

/-- A text without the quote that it stands in is passed over. -/
theorem foldlM_inside {quote : Char} (hquote : isQuote quote = true) (depth : Nat)
    (h : quote ∉ cs) : cs.foldlM pass (inside quote hquote depth) =
      some (inside quote hquote depth) := by
  induction cs with
  | nil => rfl
  | cons c cs ih =>
    rw [List.mem_cons, not_or] at h
    have hother : (c == quote) = false := beq_false_of_ne (Ne.symm h.1)
    rw [List.foldlM_cons, pass, hother]
    exact ih h.2

/-- The quotes around a text that stays inside of them bring the scanner back outside. -/
theorem foldlM_quoted {quote : Char} (hquote : isQuote quote = true) (depth : Nat)
    (h : cs.foldlM pass (inside quote hquote depth) = some (inside quote hquote depth)) :
    (quote :: (cs ++ [quote])).foldlM pass (outside depth) = some (outside depth) := by
  have hopen : pass (outside depth) quote = some (inside quote hquote depth) := by
    simp [pass, hquote]
  have hclose : pass (inside quote hquote depth) quote = some (outside depth) := by
    simp [pass]
  rw [List.foldlM_cons, hopen, Option.bind_eq_bind, Option.bind_some, List.foldlM_append, h,
    Option.bind_eq_bind, Option.bind_some, List.foldlM_cons, hclose]
  rfl

end Place

end ApiJourney.Query
