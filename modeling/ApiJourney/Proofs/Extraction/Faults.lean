-- SUMMARY: When an extraction has a result, and why it can have none.
import ApiJourney.Extraction.Evaluation
import ApiJourney.Proofs.Pattern.Parser
import ApiJourney.Proofs.Response.Content
import ApiJourney.Proofs.Query.Evaluation
import ApiJourney.Proofs.Transform.Failures

/-!
# Faults of extractions

An extraction finds a value or fails with a message, unless its path or its expression breaks,
the body has no text, the default is needed and cannot be reported, or the transform breaks: then
there is no result, but a fault. Statuses and headers alone never end with one.
-/

namespace ApiJourney

namespace Extraction

open Text

/-- A failure is an error, or a fault of a kind. -/
def FaultsBy (E : Fault → Prop) : ExtractionFailure → Prop
  | .error _ => True
  | .fault f => E f

theorem FaultsBy.mono {E E' : Fault → Prop} (hE : ∀ f, E f → E' f) :
    ∀ failure, FaultsBy E failure → FaultsBy E' failure
  | .error _, _ => trivial
  | .fault f, hf => hE f hf

/-! ## Paths -/

theorem fromPath_ensures (body : Value) (path : String) :
    Ensures (fromPath body path) (fun _ => True) (FaultsBy (Body.Breaks body path)) := by
  unfold fromPath
  split_ifs
  · trivial
  · split
    · next f hf =>
      split_ifs with hvalue
      · trivial
      · exact .of_document hf hvalue
    · next document _ =>
      have hmatches := Query.evaluate_ensures path document
      split
      · trivial
      · next f hf => exact .inl (hmatches.of_error hf)
      · split <;> trivial

/-! ## Regular expressions -/

theorem groupDigits?_eq {cs ds : List Char} (h : groupDigits? cs = some ds) :
    ds <+: cs ∧ ds ≠ [] ∧ ∀ d ∈ ds, isDecimal d = true := by
  unfold groupDigits? at h
  dsimp only at h
  have hfront : (if cs.getLast? == some '\n' then cs.dropLast else cs) <+: cs := by
    split_ifs
    · exact List.dropLast_prefix cs
    · exact List.prefix_refl cs
  generalize (if cs.getLast? == some '\n' then cs.dropLast else cs) = line at h hfront
  split at h
  · cases h
  · next hdigits =>
    obtain rfl := Option.some.inj h
    simp only [Bool.or_eq_true, List.isEmpty_iff, Bool.not_eq_true', not_or, Bool.not_eq_false,
      List.all_eq_true] at hdigits
    exact ⟨hfront, hdigits⟩

/-- What a path is split into: an expression, and digits that stand in the path too. -/
theorem splitGroup_isInfix {cs expression : List Char} {digits : Option (List Char)}
    (h : splitGroup cs = (expression, digits)) :
    expression <:+: cs ∧
      ∀ ds ∈ digits, ds <:+: cs ∧ ds ≠ [] ∧ ∀ d ∈ ds, isDecimal d = true := by
  have hwhole : cs <:+: cs ∧
      ∀ ds ∈ none, ds <:+: cs ∧ ds ≠ [] ∧ ∀ d ∈ ds, isDecimal d = true :=
    ⟨List.infix_refl cs, by simp⟩
  have htail : (cs.reverse.takeWhile (· != '|')).reverse <:+ cs := by
    rw [← List.reverse_prefix, List.reverse_reverse]
    exact List.takeWhile_prefix _
  unfold splitGroup at h
  dsimp only at h
  split_ifs at h with hbar
  · split at h
    · next ds hds =>
      obtain ⟨rfl, rfl⟩ := Prod.mk.inj h
      refine ⟨(List.take_prefix _ _).isInfix, ?_⟩
      rintro _ ⟨rfl⟩
      obtain ⟨hfront, hne, hdecimal⟩ := groupDigits?_eq hds
      exact ⟨hfront.isInfix.trans htail.isInfix, hne, hdecimal⟩
    · obtain ⟨rfl, rfl⟩ := Prod.mk.inj h
      exact hwhole
  · obtain ⟨rfl, rfl⟩ := Prod.mk.inj h
    exact hwhole

/-- The digits of a group are a number, or there are too many of them. -/
theorem groupNumber_ensures {cs : List Char} {digits : Option (List Char)}
    (h : ∀ ds ∈ digits, ds <:+: cs ∧ ds ≠ [] ∧ ∀ d ∈ ds, isDecimal d = true) :
    Ensures (groupNumber digits) (fun _ => True)
      fun f => f = .badValue ∧ Numeral.LongDigits cs := by
  unfold groupNumber
  split
  · trivial
  · next ds =>
    obtain ⟨hds, hne, hdecimal⟩ := h ds rfl
    split
    · trivial
    · next hnone =>
      exact ⟨rfl, ds, hds, (Numeral.integer?_bareDigits hne hdecimal).1 hnone, hdecimal⟩

theorem fromRegex_ensures (body : Value) (path : String) :
    Ensures (fromRegex body path) (fun _ => True)
      (FaultsBy fun f => Pattern.Breaks path.toList f ∨ Body.text body = .error f) := by
  unfold fromRegex
  cases hsplit : splitGroup path.toList with
  | mk expression digits =>
    obtain ⟨hexpression, hdigits⟩ := splitGroup_isInfix hsplit
    have hgroup := groupNumber_ensures hdigits
    have hparse := Pattern.parse_ensures expression
    dsimp only
    refine Ensures.bind (P := fun _ => True) ?_ fun group _ => ?_
    · refine (hgroup.imp (fun _ h => h) ?_).mapError
      rintro _ ⟨rfl, hlong⟩
      exact .inl (.inl ⟨rfl, .inl hlong⟩)
    · split
      · trivial
      · next f hf => exact .inl ((hparse.of_error hf).mono hexpression)
      · cases htext : Body.text body with
        | error f => exact .inr rfl
        | ok text =>
          simp only [Except.mapError, bind, Except.bind]
          split <;> trivial

theorem splitGroup_digits {expression ds : List Char} (hne : ds ≠ [])
    (hdecimal : ∀ d ∈ ds, isDecimal d = true) :
    splitGroup (expression ++ '|' :: ds) = (expression, some ds) := by
  have hbar : ∀ d ∈ ds.reverse, (d != '|') = true := fun d hd => by
    rw [bne, beq_of_isDecimal (hdecimal d (List.mem_reverse.1 hd)) (by decide), Bool.not_false]
  -- The last bar splits, and no digit is a bar: the digits are all that stands behind it.
  have htail : ((expression ++ '|' :: ds).reverse.takeWhile (· != '|')).reverse = ds := by
    rw [List.reverse_append, List.reverse_cons, List.append_assoc,
      List.takeWhile_append_of_pos hbar, List.singleton_append,
      List.takeWhile_cons_of_neg (by decide), List.append_nil, List.reverse_reverse]
  have hdigits : groupDigits? ds = some ds := by
    have hlast : (ds.getLast? == some '\n') = false := by
      rw [List.getLast?_eq_some_getLast hne, beq_eq_false_iff_ne]
      intro hend
      have hdigit := hdecimal _ (List.getLast_mem hne)
      rw [Option.some.inj hend] at hdigit
      exact absurd hdigit (by decide)
    have hall : ds.all isDecimal = true := List.all_eq_true.2 hdecimal
    simp [groupDigits?, hlast, hall, hne]
  have hlength : (expression ++ '|' :: ds).length = expression.length + 1 + ds.length := by
    rw [List.length_append, List.length_cons]
    omega
  unfold splitGroup
  dsimp only
  rw [htail, hdigits, hlength, if_pos (by omega), Nat.add_sub_cancel, Nat.add_sub_cancel]
  exact congrArg (·, some ds) List.take_left

/-- A group whose number has too many digits ends with a fault. -/
theorem fromRegex_longGroup (body : Value) (expression : List Char) {ds : List Char}
    (hdecimal : ∀ d ∈ ds, isDecimal d = true) (hlong : Numeral.maxDigits < ds.length) :
    fromRegex body (String.ofList (expression ++ '|' :: ds)) = .error (.fault .badValue) := by
  have hne : ds ≠ [] := List.ne_nil_of_length_pos (Nat.zero_lt_of_lt hlong)
  have hread := (Numeral.integer?_bareDigits hne hdecimal).2 hlong
  unfold fromRegex
  rw [String.toList_ofList, splitGroup_digits hne hdecimal]
  simp only [groupNumber, hread]
  rfl

/-! ## Extractions -/

/-- Why an extraction may end with a fault on a response. -/
inductive Breaks (e : Extraction) (r : Response) : Fault → Prop where
  /-- The path breaks, or the body that it leads into does. -/
  | path {f : Fault} : e.kind = .jsonPath → Body.Breaks r.body e.path f → Breaks e r f
  /-- The regular expression breaks, or its group has too many digits. -/
  | pattern {f : Fault} : e.kind = .regex → Pattern.Breaks e.path.toList f → Breaks e r f
  /-- The body that the expression is looked for in has no text. -/
  | text {f : Fault} : e.kind = .regex → Body.text r.body = .error f → Breaks e r f
  /-- The body that the expression is looked for in is nested too deeply. -/
  | nested : e.kind = .regex → plainNesting < r.body.nesting → Breaks e r .tooDeep
  /-- The default that stands in for an error cannot be reported. -/
  | unwrittenDefault {x : ExtractionError} {v : Value} : e.lookup r = .error (.error x) →
      e.default = some v → v.written? = none → Breaks e r .badValue
  /-- The default that stands in for an error is nested too deeply. -/
  | nestedDefault {x : ExtractionError} {v : Value} : e.lookup r = .error (.error x) →
      e.default = some v → plainNesting < v.nesting → Breaks e r .tooDeep
  /-- The transform breaks on what is found. -/
  | transform {f : Fault} {t : String} {v : Value} : e.transform = some t →
      e.orDefault (e.lookup r) = .ok v → Transform.Breaks v t f → Breaks e r f

theorem lookup_ensures (e : Extraction) (r : Response) :
    Ensures (e.lookup r) (fun _ => True) (FaultsBy (Breaks e r)) := by
  unfold lookup
  cases hkind : e.kind with
  | jsonPath =>
    exact (fromPath_ensures r.body e.path).imp (fun _ h => h)
      (FaultsBy.mono fun f hf => .path hkind hf)
  | header =>
    dsimp only [fromHeader]
    split <;> trivial
  | regex =>
    exact (fromRegex_ensures r.body e.path).imp (fun _ h => h)
      (FaultsBy.mono fun f hf => hf.elim (.pattern hkind) (.text hkind))
  | status => trivial

/-- No default stands in for a fault. -/
theorem orDefault_fault (e : Extraction) (f : Fault) :
    e.orDefault (.error (.fault f)) = .error (.fault f) := by
  unfold orDefault
  cases e.default <;> rfl

theorem orDefault_unwritten {e : Extraction} {v : Value} (x : ExtractionError)
    (hdefault : e.default = some v) (hwritten : v.written? = none) :
    e.orDefault (.error (.error x)) = .error (.fault .badValue) := by
  unfold orDefault
  rw [hdefault]
  exact if_pos (by rw [hwritten]; rfl)

theorem orDefault_ensures (e : Extraction) (r : Response) :
    Ensures (e.orDefault (e.lookup r)) (fun _ => True) (FaultsBy (Breaks e r)) := by
  have hfound := lookup_ensures e r
  cases hlookup : e.lookup r with
  | ok v =>
    unfold orDefault
    cases e.default <;> trivial
  | error failure =>
    cases failure with
    | fault f =>
      rw [hlookup] at hfound
      rw [orDefault_fault]
      exact hfound
    | error x =>
      unfold orDefault
      cases hdefault : e.default with
      | none => trivial
      | some v =>
        dsimp only
        split_ifs with hwritten
        · exact .unwrittenDefault hlookup hdefault (Option.isNone_iff_eq_none.1 hwritten)
        · trivial

/-- An extraction finds a value or fails with an error, or it breaks. -/
theorem run_ensures (e : Extraction) (r : Response) :
    Ensures (e.run r) (fun _ => True) (FaultsBy (Breaks e r)) := by
  have hfound := orDefault_ensures e r
  rw [run]
  cases hvalue : e.orDefault (e.lookup r) with
  | error failure =>
    rw [hvalue] at hfound
    exact hfound
  | ok v =>
    dsimp only [bind, Except.bind]
    cases ht : e.transform.filter fun t => !t.isEmpty with
    | none => trivial
    | some t =>
      have htransform := (Option.filter_eq_some_iff.1 ht).1
      dsimp only [transformed]
      split
      · trivial
      · trivial
      · next f hf => exact .transform htransform hvalue (Transform.apply_fault hf)

theorem resultOf_ensures (e : Extraction) (r : Response) :
    Ensures (resultOf (e.run r)) (fun _ => True) (Breaks e r) := by
  have hrun := run_ensures e r
  revert hrun
  rcases e.run r with (_ | f) | v <;> exact id

/-- The value that an extraction gives can be reported: it has a written form, and is followed to
    its end. -/
def Presentable (e : Extraction) (r : Response) : Prop :=
  ∀ v, e.run r = .ok v → v.written?.isSome ∧ v.nesting ≤ plainNesting

/-- The value that an extraction gives has no written form. -/
def Unreportable (e : Extraction) (r : Response) : Prop :=
  ∃ v, e.run r = .ok v ∧ v.written? = none

theorem Presentable.not_unreportable {e : Extraction} {r : Response} (h : Presentable e r) :
    ¬ Unreportable e r := by
  rintro ⟨v, hrun, hwritten⟩
  have hsome := (h v hrun).1
  rw [hwritten] at hsome
  cases hsome

theorem runAll_step_eq_ok (r : Response) (acc : Extracted) (e : Extraction) :
    (∃ extracted, runAll.step r acc e = .ok extracted) ↔
      (∃ result, resultOf (e.run r) = .ok result) ∧ ¬ Unreportable e r := by
  unfold runAll.step Unreportable
  rcases e.run r with (x | f) | v
  · simp [resultOf]
  · simp [resultOf]
  · cases hwritten : v.written? <;> simp [resultOf, hwritten]

/-- All extractions have results together if each of them has one that can be reported. -/
theorem runAll_eq_ok (r : Response) (es : List Extraction) :
    (∃ extracted, runAll r es = .ok extracted) ↔
      ∀ e ∈ es, (∃ result, resultOf (e.run r) = .ok result) ∧ ¬ Unreportable e r := by
  unfold runAll
  split
  · simp
  · exact foldlM_eq_ok (runAll_step_eq_ok r) _ _

/-- Half of a surrogate pair in the transform of a value that is found. -/
theorem run_halfTransform {e : Extraction} {r : Response} {v : Value} {t : String}
    (hfound : e.orDefault (e.lookup r) = .ok v) (ht : e.transform = some t)
    (hhalf : Transform.HoldsHalf t) : e.run r = .error (.fault .unencodable) := by
  have hne : t.isEmpty = false := by
    rw [String.isEmpty_eq_false_iff]
    rintro rfl
    obtain ⟨⟨c, hmem, -⟩, -⟩ := hhalf
    exact absurd hmem List.not_mem_nil
  unfold run
  rw [hfound, ht, Option.filter_some, hne]
  simp [bind, Except.bind, transformed, Transform.apply_half hhalf]

/-- A default without a written form, where nothing is found. -/
theorem run_unwrittenDefault {e : Extraction} {r : Response} {x : ExtractionError} {v : Value}
    (hlookup : e.lookup r = .error (.error x)) (hdefault : e.default = some v)
    (hwritten : v.written? = none) : e.run r = .error (.fault .badValue) := by
  unfold run
  rw [hlookup, orDefault_unwritten x hdefault hwritten]
  rfl

theorem run_longGroup {e : Extraction} {expression ds : List Char} (hkind : e.kind = .regex)
    (hpath : e.path = String.ofList (expression ++ '|' :: ds))
    (hdecimal : ∀ d ∈ ds, isDecimal d = true) (hlong : Numeral.maxDigits < ds.length)
    (r : Response) : e.run r = .error (.fault .badValue) := by
  have hlookup : e.lookup r = .error (.fault .badValue) := by
    unfold lookup
    rw [hkind, hpath]
    exact fromRegex_longGroup r.body expression hdecimal hlong
  unfold run
  rw [hlookup, orDefault_fault]
  rfl

/-- Each extraction has a result unless it breaks. All of them have if each has one that can be
    reported, and only if none of the values is without a written form. A transform without bytes
    on a value that is found, a default without a written form where nothing is found, and a group
    whose number has too many digits always are faults. -/
theorem results_unless_breaks (r : Response) (es : List Extraction) :
    (∀ e ∈ es, (∃ result, resultOf (e.run r) = .ok result) ∨
      ∃ f, resultOf (e.run r) = .error f ∧ Breaks e r f) ∧
    ((∀ e ∈ es, (∃ result, resultOf (e.run r) = .ok result) ∧ Presentable e r) →
      ∃ extracted, runAll r es = .ok extracted) ∧
    ((∃ extracted, runAll r es = .ok extracted) →
      ∀ e ∈ es, (∃ result, resultOf (e.run r) = .ok result) ∧ ¬ Unreportable e r) ∧
    (∀ e ∈ es, ∀ v t, e.orDefault (e.lookup r) = .ok v → e.transform = some t →
      Transform.HoldsHalf t → resultOf (e.run r) = .error .unencodable) ∧
    (∀ e ∈ es, ∀ x v, e.lookup r = .error (.error x) → e.default = some v → v.written? = none →
      v.nesting ≤ plainNesting → resultOf (e.run r) = .error .badValue) ∧
    (∀ e ∈ es, ∀ expression ds : List Char, e.kind = .regex →
      e.path = String.ofList (expression ++ '|' :: ds) → (∀ d ∈ ds, isDecimal d = true) →
      Numeral.maxDigits < ds.length → resultOf (e.run r) = .error .badValue) := by
  refine ⟨fun e _ => ?_, fun hall => ?_, (runAll_eq_ok r es).1, fun e _ v t hfound ht hhalf => ?_,
    fun e _ x v hlookup hdefault hwritten _ => ?_,
    fun e _ expression ds hkind hpath hdecimal hlong => ?_⟩
  · exact (resultOf_ensures e r).ok_or_error.imp_left fun ⟨result, hresult, _⟩ =>
      ⟨result, hresult⟩
  · exact (runAll_eq_ok r es).2 fun e he => (hall e he).imp_right Presentable.not_unreportable
  · rw [run_halfTransform hfound ht hhalf]
    rfl
  · rw [run_unwrittenDefault hlookup hdefault hwritten]
    rfl
  · rw [run_longGroup hkind hpath hdecimal hlong r]
    rfl

/-- The status, in a transform that has no bytes. -/
def halfTransform : Extraction :=
  ⟨.status, "", "x", none, some Transform.halfText⟩

/-- The text before a bar, in a group whose number has too many digits. -/
def longGroup : Extraction :=
  ⟨.regex, String.ofList (['a'] ++ '|' :: Numeral.nines), "x", none, none⟩

/-- A body of one letter. -/
def letterResponse : Response :=
  ⟨200, [], .text "a", Binary64.zero false⟩

theorem halfTransform_longGroup_fault :
    resultOf (halfTransform.run letterResponse) = .error .unencodable ∧
    resultOf (longGroup.run letterResponse) = .error .badValue :=
  ⟨(results_unless_breaks letterResponse [halfTransform]).2.2.2.1 halfTransform
      List.mem_cons_self (.int 200) Transform.halfText rfl rfl Transform.halfText_holdsHalf,
    (results_unless_breaks letterResponse [longGroup]).2.2.2.2.2 longGroup List.mem_cons_self
      ['a'] Numeral.nines rfl rfl Numeral.nines_decimal Numeral.nines_long⟩

/-- More repetitions than can be counted. The default does not help. -/
def hugeCount : Extraction :=
  ⟨.regex, "a\x7b4294967296\x7d", "x", some (.int 1), none⟩

theorem hugeCount_read :
    read (.object [("type", .text "regex"), ("path", .text "a\x7b4294967296\x7d"),
      ("as", .text "x"), ("default", .int 1)]) = .accepted hugeCount :=
  rfl

theorem hugeCount_overflow :
    Ensures (resultOf (hugeCount.run letterResponse)) (fun _ => False) (· = .overflow) := by
  decide +kernel

theorem results_not_total : ¬ ∀ (v : Value) (e : Extraction) (r : Response),
    read v = .accepted e → ∃ result, resultOf (e.run r) = .ok result := by
  intro h
  obtain ⟨result, hresult⟩ := h _ hugeCount letterResponse hugeCount_read
  exact hugeCount_overflow.of_ok hresult

end Extraction

end ApiJourney
