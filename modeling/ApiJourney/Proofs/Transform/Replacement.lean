-- SUMMARY: The check of a replacement tells the size of its result.
import ApiJourney.Proofs.Transform.Sizes
import ApiJourney.Text.Search

/-!
# Checked replacements

Counting and replacing go through a text side by side: both take the occurrences of a piece from
the left, and both pass over the characters of one before they look for the next. So a text grows
by the difference of the two pieces for each occurrence that is counted, as far as the limit lets
occurrences be replaced.

Before a replacement is made, the length of its result is worked out from the number of
occurrences. That length is the one of the result, for all pieces and all limits. So the
replacements that are refused are those whose result would be larger than a transform may build,
and no result is refused once it is there.
-/

namespace ApiJourney.Text

variable {old new cs : List Char} {limit : Option Nat}

/-! ## Limits -/

/-- So many occurrences, but no more than the limit. -/
def within (limit : Option Nat) (n : Nat) : Nat :=
  limit.elim n (min n)

@[simp] theorem within_none (n : Nat) : within none n = n := rfl

@[simp] theorem within_some (k n : Nat) : within (some k) n = min n k := rfl

@[simp] theorem within_zero (limit : Option Nat) : within limit 0 = 0 := by
  cases limit <;> simp

/-- An occurrence that is replaced leaves one less to the limit. -/
theorem within_succ (h : limit ≠ some 0) (n : Nat) :
    within limit (n + 1) = within (oneLess limit) n + 1 := by
  cases limit with
  | none => rfl
  | some k =>
    have hk : k ≠ 0 := fun hk => h (congrArg some hk)
    simp only [oneLess, Option.map_some, within_some]
    omega

/-! ## Lengths -/

/-- The characters that are left and those of all occurrences that are replaced make up the text;
    `skip` of its characters belong to an occurrence in front of it. -/
theorem length_replaceFrom (hold : old ≠ []) (new : List Char) (limit : Option Nat) {skip : Nat}
    (hskip : skip ≤ cs.length) :
    (replaceFrom old new skip limit cs).length + skip +
        within limit (countFrom old skip cs) * old.length =
      cs.length + within limit (countFrom old skip cs) * new.length := by
  induction cs generalizing skip limit with
  | nil =>
    obtain rfl : skip = 0 := Nat.le_zero.1 hskip
    simp [replaceFrom, countFrom]
  | cons c rest ih =>
    cases skip with
    | succ skip =>
      have hrest := ih limit (Nat.le_of_succ_le_succ hskip)
      rw [replaceFrom, countFrom, List.length_cons]
      omega
    | zero =>
      rw [replaceFrom, countFrom]
      by_cases hoccurs : old.isPrefixOf (c :: rest)
      · rw [if_pos hoccurs]
        by_cases hlimit : limit = some 0
        · -- What occurs behind the limit is counted, but not replaced.
          have hrest := ih (some 0) (Nat.zero_le _)
          subst hlimit
          simp only [within_some, Nat.min_zero, Nat.zero_mul, Nat.add_zero] at hrest ⊢
          simpa using hrest
        · have hfits : old.length - 1 ≤ rest.length := by
            have hle := (List.isPrefixOf_iff_prefix.1 hoccurs).length_le
            rw [List.length_cons] at hle
            omega
          have hpos : 0 < old.length := List.length_pos_iff.2 hold
          have hrest := ih (oneLess limit) hfits
          rw [if_pos (by simp [hlimit, hoccurs]), within_succ hlimit, List.length_append,
            List.length_cons, Nat.succ_mul, Nat.succ_mul]
          omega
      · have hrest := ih limit (Nat.zero_le _)
        rw [if_neg hoccurs, if_neg (by simp [hoccurs]), List.length_cons, List.length_cons]
        omega

theorem length_interleave (new : List Char) (limit : Option Nat) (cs : List Char) :
    (interleave new limit cs).length = cs.length + within limit (cs.length + 1) * new.length := by
  induction cs generalizing limit with
  | nil =>
    by_cases hlimit : limit = some 0
    · simp [interleave, hlimit]
    · simp [interleave, hlimit, within_succ hlimit]
  | cons c rest ih =>
    by_cases hlimit : limit = some 0
    · simp [interleave, hlimit]
    · have hrest := ih (oneLess limit)
      have hreplaced : interleave new limit (c :: rest) =
          new ++ c :: interleave new (oneLess limit) rest := by
        rw [interleave, if_neg (by simpa using hlimit)]
      rw [hreplaced, List.length_append, List.length_cons, List.length_cons, hrest,
        within_succ hlimit, Nat.succ_mul]
      omega

/-- A text grows by as much as the new piece is longer, for each occurrence within the limit. -/
theorem length_replace (old new : List Char) (limit : Option Nat) (cs : List Char) :
    ((replace old new limit cs).length : Int) =
      cs.length + within limit (count old cs) * ((new.length : Int) - old.length) := by
  rw [replace, count]
  cases old with
  | nil =>
    have hgrown := length_interleave new limit cs
    simp only [List.isEmpty_nil, if_true, List.length_nil, hgrown]
    push_cast
    rw [Int.sub_zero]
  | cons c old =>
    have hgrown := length_replaceFrom (List.cons_ne_nil c old) new limit
      (Nat.zero_le cs.length)
    simp only [List.isEmpty_cons, Bool.false_eq_true, if_false, Int.mul_sub]
    generalize within limit (countFrom (c :: old) 0 cs) = n at hgrown ⊢
    push_cast [← Int.natCast_inj] at hgrown ⊢
    omega

end ApiJourney.Text

namespace ApiJourney.Transform

open Text

/-- The limit that a number of replacements stands for; a negative one is none. -/
def limitOf (count : Option Int) : Option Nat :=
  count.bind fun n => if n < 0 then none else some n.toNat

theorem replacements_eq (cs old : List Char) (limit : Option Value) :
    replacements cs old limit = within (limitOf (limit.bind Value.int?)) (Text.count old cs) := by
  rw [replacements]
  cases limit.bind Value.int? with
  | none => rfl
  | some n =>
    by_cases hn : n < 0
    · simp [limitOf, hn, Int.not_le.2 hn]
    · simp [limitOf, hn, Int.not_lt.1 hn]

/-- The length that is worked out is the length of the result. -/
theorem replacedLength_eq (cs old new : List Char) (limit : Option Value) :
    replacedLength cs old new limit =
      (replace old new (limitOf (limit.bind Value.int?)) cs).length := by
  rw [replacedLength, replacements_eq, length_replace]

/-! ## Calls -/

theorem limitArg_eq {v : Value} {n : Int} (hv : v.int? = some n) :
    limitArg v = if isSize n then .ok (limitOf (some n)) else .error .overflow := by
  simp only [limitArg, sizeArg, hv]
  cases isSize n <;> rfl

/-- What replaces in a text; a limit that is no size is a fault. -/
theorem replaceText_eq (cs : List Char) (old new : String) {counts : List Value}
    {count : Option Int} (hcounts : counts.map Value.int? = count.toList.map some) :
    replaceText cs (.text old :: .text new :: counts) =
      if count.all isSize then
        .ok (textValue (replace old.toList new.toList (limitOf count) cs))
      else .error .overflow := by
  cases count with
  | none =>
    obtain rfl := List.map_eq_nil_iff.1 hcounts
    rfl
  | some n =>
    obtain ⟨v, rfl, hv⟩ := List.map_eq_singleton_iff.1 hcounts
    change (do let limit ← limitArg v; .ok (textValue (replace old.toList new.toList limit cs))) = _
    rw [limitArg_eq hv, Option.all_some]
    cases isSize n <;> rfl

theorem sameAtom_text {s t : String} (h : (Value.text s).sameAtom (.text t) = true) : s = t := by
  simpa [Value.sameAtom, Value.parts?, Value.reading?] using h

/-- A text that is known again where it was is the result. -/
theorem value_placeText {target : Located} {s : String} (htarget : target.value = .text s)
    (cs : List Char) (args : List Located) (kws : Keywords Located) (result : List Char) :
    (placeText target cs "replace" args kws (textValue result)).value = textValue result := by
  change (if isIdle cs args && (textValue result).sameAtom target.value then target
    else .written (textValue result)).value = textValue result
  split_ifs with hkept
  · rw [Bool.and_eq_true, htarget] at hkept
    rw [htarget, textValue, sameAtom_text hkept.2]
  · exact written_value _

/-- The limit is told by the argument behind the two pieces. -/
theorem limit_of_counts {counts : List Located} {count : Option Int}
    (h : counts.map (·.value.int?) = count.toList.map some) :
    (counts.map (·.value)).head?.bind Value.int? = count := by
  cases count with
  | none =>
    obtain rfl := List.map_eq_nil_iff.1 h
    rfl
  | some n =>
    obtain ⟨l, rfl, hl⟩ := List.map_eq_singleton_iff.1 h
    exact hl

/-- Whether a call is refused is known before it is made. -/
theorem callMethod_refused {target : Located} {name : String} {args : List Located}
    {kws : Keywords Located} {e : Error} (hname : (methodsOf target.value).contains name = true)
    (hcheck : checkArgs target.value name (args.map (·.value)) = .error e) :
    callMethod target name args kws = .error e := by
  rw [callMethod, hname, hcheck]
  rfl

/-- A call that is not refused fails as its method does, or its result is measured. -/
theorem callMethod_checked {target : Located} {name : String} {args : List Located}
    {kws : Keywords Located} (hname : (methodsOf target.value).contains name = true)
    (hcheck : checkArgs target.value name (args.map (·.value)) = .ok ()) :
    callMethod target name args kws =
      match methodResult target name args kws with
      | .error f => .error (.failed f)
      | .ok l => if maxItems < resultSize l.value then .error (.largeResult name) else .ok l := by
  rw [callMethod, hname, hcheck]
  cases methodResult target name args kws <;> rfl

section Replacing

variable {target a b : Located} {counts : List Located} {s old new : String} {count : Option Int}

theorem checkArgs_replace (htarget : target.value = .text s) (ha : a.value = .text old)
    (hb : b.value = .text new) (hcounts : counts.map (·.value.int?) = count.toList.map some) :
    checkArgs target.value "replace" ((a :: b :: counts).map (·.value)) =
      if maxItems < (replace old.toList new.toList (limitOf count) s.toList).length then
        .error .replacement
      else .ok () := by
  rw [List.map_cons, List.map_cons, htarget, ha, hb]
  change (if (maxItems : Int) < replacedLength _ _ _ _ then _ else _) = _
  rw [replacedLength_eq, limit_of_counts hcounts]
  simp only [Int.ofNat_lt]

theorem methodResult_replace (htarget : target.value = .text s) (ha : a.value = .text old)
    (hb : b.value = .text new) (hcounts : counts.map (·.value.int?) = count.toList.map some) :
    (methodResult target "replace" (a :: b :: counts) []).map (·.value) =
      if count.all isSize then
        .ok (textValue (replace old.toList new.toList (limitOf count) s.toList))
      else .error .overflow := by
  have hvalues : (a :: b :: counts).map (·.value) =
      .text old :: .text new :: counts.map (·.value) := by
    rw [List.map_cons, List.map_cons, ha, hb]
  have hresult : methodResult target "replace" (a :: b :: counts) [] =
      (replaceText s.toList ((a :: b :: counts).map (·.value))).map
        (placeText target s.toList "replace" (a :: b :: counts) []) := by
    simp only [methodResult, htarget]
    rfl
  rw [hresult, hvalues, replaceText_eq s.toList old new (by rwa [List.map_map])]
  split_ifs
  · exact congrArg Except.ok (value_placeText htarget _ _ _ _)
  · rfl

/-- A call of the method: refused if the result would be too large, else the result, or a fault
    if the limit is no size. -/
theorem callMethod_replace (htarget : target.value = .text s) (ha : a.value = .text old)
    (hb : b.value = .text new) (hcounts : counts.map (·.value.int?) = count.toList.map some) :
    (callMethod target "replace" (a :: b :: counts) []).map (·.value) =
      let replaced := replace old.toList new.toList (limitOf count) s.toList
      if maxItems < replaced.length then .error .replacement
      else if count.all isSize then .ok (textValue replaced)
      else .error (.failed .overflow) := by
  have hname : (methodsOf target.value).contains "replace" = true := by
    rw [htarget]
    rfl
  have hcheck := checkArgs_replace htarget ha hb hcounts
  have hresult := methodResult_replace htarget ha hb hcounts
  dsimp only
  -- What is replaced is built once and bounded twice: by the prediction and by the result.
  generalize replace old.toList new.toList (limitOf count) s.toList = replaced at hcheck hresult ⊢
  by_cases hlarge : maxItems < replaced.length
  · rw [if_pos hlarge] at hcheck ⊢
    rw [callMethod_refused hname hcheck]
    rfl
  · rw [if_neg hlarge] at hcheck ⊢
    rw [callMethod_checked hname hcheck]
    cases hmade : methodResult target "replace" (a :: b :: counts) [] with
    | error f =>
      rw [hmade] at hresult
      cases hsize : count.all isSize with
      | true =>
        rw [hsize] at hresult
        exact absurd hresult nofun
      | false =>
        rw [hsize] at hresult
        obtain rfl : f = .overflow := Except.error.inj hresult
        rfl
    | ok l =>
      rw [hmade] at hresult
      cases hsize : count.all isSize with
      | false =>
        rw [hsize] at hresult
        exact absurd hresult nofun
      | true =>
        rw [hsize] at hresult
        have hvalue : l.value = textValue replaced := Except.ok.inj hresult
        -- The prediction was exact, so the second bound never refuses what the first let pass.
        have hfits : ¬ maxItems < resultSize l.value := by
          rw [hvalue]
          exact (congrArg (maxItems < ·) (itemCount_textValue replaced)) ▸ hlarge
        dsimp only
        rw [if_neg hfits, ← hvalue]
        rfl

end Replacing

/-! ## Expressions -/

/-- A replacement in a transform, whose pieces are texts and whose limit, if there is one, is an
    integer. The length that is worked out for it is the length of its result; it is refused
    before it is made exactly if that is more than a transform may build, and else it gives the
    result, unless the limit is no size. -/
theorem replacement_exact {value : Value} {target : Expr} {args : List Expr} {t a b : Located}
    {counts : List Located} {s old new : String} {count : Option Int}
    (hargs : evalList value args = .ok (a :: b :: counts)) (htarget : eval value target = .ok t)
    (ht : t.value = .text s) (ha : a.value = .text old) (hb : b.value = .text new)
    (hcounts : counts.map (·.value.int?) = count.toList.map some) :
    let replaced := replace old.toList new.toList (limitOf count) s.toList
    replacedLength s.toList old.toList new.toList (counts.map (·.value)).head? =
        replaced.length ∧
      (eval value (.call (.attribute target "replace") args [])).map (·.value) =
        if maxItems < replaced.length then .error .replacement
        else if count.all isSize then .ok (textValue replaced)
        else .error (.failed .overflow) := by
  refine ⟨?_, ?_⟩
  · rw [replacedLength_eq, limit_of_counts hcounts]
  · have hcall : eval value (.call (.attribute target "replace") args []) =
        callMethod t "replace" (a :: b :: counts) [] := by
      rw [eval, hargs]
      change (do let t ← eval value target; callMethod t "replace" (a :: b :: counts) []) = _
      rw [htarget]
      rfl
    rw [hcall]
    exact callMethod_replace ht ha hb hcounts

/-- The first run of two letters is cut out, and no other one. -/
def cutRun : List Expr := [.constant (.text "aa"), .constant (.text "-"), .constant (.int 1)]

theorem cutRun_replacement :
    let replaced := replace "aa".toList "-".toList (limitOf (some 1)) "aaaaa".toList
    evalList (.text "aaaaa") cutRun =
        .ok [.fresh (.text "aa"), .fresh (.text "-"), .fresh (.int 1)] ∧
      replaced = "-aaa".toList ∧
      replacedLength "aaaaa".toList "aa".toList "-".toList (some (.int 1)) = replaced.length ∧
      (eval (.text "aaaaa") (.call (.attribute (.name "value") "replace") cutRun [])).map
        (·.value) = .ok (.text "-aaa") := by
  have hargs : evalList (.text "aaaaa") cutRun =
      .ok [.fresh (.text "aa"), .fresh (.text "-"), .fresh (.int 1)] := rfl
  have htarget : eval (.text "aaaaa") (.name "value") = .ok ⟨.text "aaaaa", .part []⟩ := rfl
  have hcounts : [Located.fresh (.int 1)].map (·.value.int?) = (some (1 : Int)).toList.map some :=
    rfl
  have hexact := replacement_exact hargs htarget rfl rfl rfl hcounts
  exact ⟨hargs, rfl, hexact.1, hexact.2.trans rfl⟩

end ApiJourney.Transform
