-- SUMMARY: The pieces that the text of a query is taken apart into, and the integers in it.
import ApiJourney.Proofs.Json.Reader
import ApiJourney.Proofs.Number.Numeral
import ApiJourney.Proofs.Text.Parts
import ApiJourney.Query.Parser

/-!
# Pieces of queries

The text of a query is taken apart at brackets, quotes, commas and colons; every piece is a
part of the text. A piece that is an integer is read unless it has too many digits.
-/

namespace ApiJourney.Query

open Text

/-! ## Pieces -/

theorem closing_append {quote : Option Char} {depth : Nat} {seen cs content rest : List Char}
    (h : closing quote depth seen cs = .closed content rest) :
    content ++ ']' :: rest = seen.reverse ++ cs := by
  induction cs generalizing quote depth seen with
  | nil => simp [closing] at h
  | cons c cs ih =>
    -- Whatever the state, a character that does not close moves from what is left to what is seen.
    have hstep : ∀ {quote depth}, closing quote depth (c :: seen) cs = .closed content rest →
        content ++ ']' :: rest = seen.reverse ++ c :: cs := fun h => by simpa using ih h
    cases quote with
    | some q => exact hstep h
    | none =>
      cases depth with
      | zero =>
        rw [closing] at h
        split_ifs at h with _ _ _ hc
        · exact hstep h
        · exact hstep h
        · obtain ⟨rfl, rfl⟩ := Closing.closed.inj h
          obtain rfl := beq_iff_eq.1 hc
          rfl
        · exact hstep h
      | succ depth =>
        rw [closing] at h
        split_ifs at h <;> exact hstep h

theorem splitUnquoted_isInfix (separator : Char) (quote : Option Char) (cs : List Char) :
    (splitUnquoted separator quote cs).1 <+: cs ∧
      ∀ part ∈ (splitUnquoted separator quote cs).2.1, part <:+: cs := by
  induction cs generalizing quote with
  | nil => cases quote <;> simp [splitUnquoted]
  | cons c cs ih =>
    have hstep : ∀ quote, (c :: (splitUnquoted separator quote cs).1) <+: c :: cs ∧
        ∀ part ∈ (splitUnquoted separator quote cs).2.1, part <:+: c :: cs := fun quote =>
      ⟨List.cons_prefix_cons.2 ⟨rfl, (ih quote).1⟩, fun part hpart =>
        ((ih quote).2 part hpart).trans (List.suffix_cons c cs).isInfix⟩
    cases quote with
    | some q => exact hstep _
    | none =>
      rw [splitUnquoted]
      split_ifs
      · exact hstep _
      · refine ⟨List.nil_prefix, ?_⟩
        intro part hpart
        rcases List.mem_cons.1 hpart with rfl | hpart
        · exact (ih none).1.isInfix.trans (List.suffix_cons c cs).isInfix
        · exact (hstep none).2 part hpart
      · exact hstep _

theorem splitOn_isInfix (separator : Char) (cs : List Char) :
    (∀ part ∈ (splitOn separator cs).head?, part <+: cs) ∧
      ∀ part ∈ splitOn separator cs, part <:+: cs := by
  induction cs with
  | nil => simp [splitOn]
  | cons c cs ih =>
    obtain ⟨hhead, hparts⟩ := ih
    have htail : ∀ part, part <:+: cs → part <:+: c :: cs := fun part h =>
      h.trans (List.suffix_cons c cs).isInfix
    rw [splitOn]
    split_ifs
    · exact ⟨by simp, List.forall_mem_cons.2
        ⟨List.nil_infix, fun part h => htail part (hparts part h)⟩⟩
    · split
      · next hnil =>
        have hpart : [c] <+: c :: cs := List.prefix_append [c] cs
        exact ⟨by simp [hpart], List.forall_mem_singleton.2 hpart.isInfix⟩
      · next part parts hcons =>
        have hpart : c :: part <+: c :: cs :=
          List.cons_prefix_cons.2 ⟨rfl, hhead part (by simp [hcons])⟩
        refine ⟨by simpa using hpart, List.forall_mem_cons.2 ⟨hpart.isInfix, fun part h => ?_⟩⟩
        exact htail part (hparts part (by simp [hcons, h]))

theorem unquoted?_isInfix {cs part : List Char} (h : unquoted? cs = some part) : part <:+: cs := by
  unfold unquoted? at h
  split at h
  · next q rest =>
    simp only [Option.ite_none_right_eq_some, Option.some.injEq] at h
    exact h.2 ▸ (List.dropLast_prefix rest).isInfix.trans (List.suffix_cons q rest).isInfix
  · cases h

theorem comparison?_suffix {cs rest : List Char} {op : Comparison}
    (h : comparison? cs = some (op, rest)) : rest <:+ cs := by
  obtain ⟨⟨sign, op'⟩, -, hsign⟩ := List.exists_of_findSome?_eq_some h
  dsimp only at hsign
  split at hsign
  · next c r hafter =>
    obtain ⟨rfl, rfl⟩ := Prod.mk.inj (Option.some.inj hsign)
    exact Json.after?_suffix hafter
  · cases hsign

/-- What a filter expression is taken apart into are parts of it. -/
theorem filterParts?_isInfix {cs path : List Char} {test : Option (Comparison × List Char)}
    (h : filterParts? cs = some (path, test)) :
    path <:+: cs ∧ ∀ t ∈ test, t.2 <:+: cs := by
  unfold filterParts? at h
  split at h
  · next rest hrest =>
    have hcs : rest <:+: cs :=
      (hrest ▸ List.suffix_cons '@' rest).isInfix.trans (trimStart_suffix cs).isInfix
    have hpath : rest.takeWhile isFilterPathChar <:+: cs :=
      (List.takeWhile_prefix _).isInfix.trans hcs
    have hleft : trimStart (rest.dropWhile isFilterPathChar) <:+: cs :=
      ((trimStart_suffix _).trans (List.dropWhile_suffix _)).isInfix.trans hcs
    dsimp only at h
    split at h
    · next c hc =>
      obtain ⟨rfl, rfl⟩ := Prod.mk.inj (Option.some.inj h)
      refine ⟨hpath, ?_⟩
      rintro _ ⟨rfl⟩
      exact (comparison?_suffix hc).isInfix.trans hleft
    · split_ifs at h
      obtain ⟨rfl, rfl⟩ := Prod.mk.inj (Option.some.inj h)
      exact ⟨hpath, by simp⟩
  · cases h

/-! ## Integers -/

/-- What stands behind the sign of an integer text. -/
theorem isIntegerText_of_body {body : List Char} :
    (match body.dropWhile isDecimal with
      | [] => !body.isEmpty
      | ['\n'] => (body.head?.map isDecimal).getD false
      | _ => false) = true ↔
    ∃ ds tail, body = ds ++ tail ∧ (tail = [] ∨ tail = ['\n']) ∧ ds ≠ [] ∧
      ∀ c ∈ ds, isDecimal c = true := by
  constructor
  · intro h
    have hbody := List.takeWhile_append_dropWhile (p := isDecimal) (l := body)
    have hds : ∀ c ∈ body.takeWhile isDecimal, isDecimal c = true := fun c hc =>
      List.mem_takeWhile_imp hc
    -- The digits run up to the end or to one final line break.
    refine ⟨body.takeWhile isDecimal, body.dropWhile isDecimal, hbody.symm, ?_, ?_, hds⟩
    · split at h <;> simp_all
    · rintro hnil
      rw [hnil, List.nil_append] at hbody
      split at h
      · simp_all
      · next hline =>
        rw [hline] at hbody
        subst hbody
        revert h
        decide
      · cases h
  · rintro ⟨ds, tail, rfl, htail, hne, hds⟩
    rw [List.dropWhile_append_of_pos hds]
    cases ds with
    | nil => exact absurd rfl hne
    | cons c ds =>
      rcases htail with rfl | rfl
      · rfl
      · have hline : ['\n'].dropWhile isDecimal = ['\n'] := by decide
        rw [hline]
        simpa using hds c

theorem isIntegerText_iff {cs : List Char} : isIntegerText cs = true ↔
    ∃ sign ds tail, cs = sign ++ ds ++ tail ∧ (sign = [] ∨ sign = ['-']) ∧
      (tail = [] ∨ tail = ['\n']) ∧ ds ≠ [] ∧ ∀ c ∈ ds, isDecimal c = true := by
  unfold isIntegerText
  refine isIntegerText_of_body.trans ?_
  split
  · next rest =>
    constructor
    · rintro ⟨ds, tail, rfl, htail, hne, hds⟩
      exact ⟨['-'], ds, tail, rfl, .inr rfl, htail, hne, hds⟩
    · rintro ⟨sign, ds, tail, hcs, rfl | rfl, htail, hne, hds⟩
      · cases ds with
        | nil => exact absurd rfl hne
        | cons c ds =>
          obtain ⟨rfl, -⟩ := List.cons.inj hcs
          exact absurd (hds '-' List.mem_cons_self) (by decide)
      · exact ⟨ds, tail, (List.cons.inj hcs).2, htail, hne, hds⟩
  · next hsign =>
    constructor
    · rintro ⟨ds, tail, rfl, htail, hne, hds⟩
      exact ⟨[], ds, tail, rfl, .inl rfl, htail, hne, hds⟩
    · rintro ⟨sign, ds, tail, rfl, rfl | rfl, htail, hne, hds⟩
      · exact ⟨ds, tail, rfl, htail, hne, hds⟩
      · exact absurd rfl (hsign (ds ++ tail))
/-- An integer text is read, or it has too many digits. -/
theorem integerOf_ensures {cs : List Char} (h : isIntegerText cs = true) :
    Ensures (integerOf cs) (fun _ => True) (fun f => f = .badValue ∧ Numeral.LongDigits cs) := by
  obtain ⟨sign, ds, tail, rfl, hsign, htail, hne, hds⟩ := isIntegerText_iff.1 h
  unfold integerOf
  split
  · trivial
  · next hnone =>
    have hlong := (Numeral.integer?_digits hsign htail hne hds).1 hnone
    exact ⟨rfl, ds, ⟨sign, tail, rfl⟩, hlong, hds⟩

end ApiJourney.Query
