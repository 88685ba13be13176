-- SUMMARY: What a list of extractions binds and reports, in whichever order it is given.
import ApiJourney.Proofs.Extraction.Bindings
import ApiJourney.Proofs.Extraction.Faults
import ApiJourney.Proofs.Number.Written
import ApiJourney.Proofs.Value.Latest

/-!
# Accounts of extractions

Each extraction of a list has a part of its own in what comes of all of them: a success an entry
under its name, a failure a line among the errors. Of entries under one name the last one stays.
So where the names are distinct, an order of the list is an order of the entries and of the
errors, and nothing else.
-/

namespace ApiJourney.Extraction

variable {r : Response} {e : Extraction} {es : List Extraction} {v : Value}

/-! ## Parts -/

/-- The entry of an extraction that succeeds. -/
def binding? (r : Response) (e : Extraction) : Option (Value × Value) :=
  (e.run r).toOption.map fun v => (.text e.bound, v)

/-- The line that reports an extraction that fails. -/
def report? (r : Response) (e : Extraction) : Option String :=
  match resultOf (e.run r) with
  | .ok result => result.error.map fun message => s!"Failed to extract '{e.bound}': {message}"
  | .error _ => none

/-- An extraction has a result, and a value that it finds can be written. -/
def Reportable (r : Response) (e : Extraction) : Prop :=
  (∃ result, resultOf (e.run r) = .ok result) ∧ ¬ Unreportable e r

theorem binding?_eq_some {entry : Value × Value} :
    binding? r e = some entry ↔ entry.1 = .text e.bound ∧ e.run r = .ok entry.2 := by
  simp only [binding?, Option.map_eq_some_iff, toOption_eq_some]
  constructor
  · rintro ⟨v, hv, rfl⟩
    exact ⟨rfl, hv⟩
  · rintro ⟨hname, hv⟩
    exact ⟨entry.2, hv, Prod.ext hname.symm rfl⟩

theorem isText_of_entries : ∀ entry ∈ es.filterMap (binding? r), entry.1.IsText := by
  intro entry hentry
  obtain ⟨e, -, he⟩ := List.mem_filterMap.1 hentry
  exact ⟨e.bound, (binding?_eq_some.1 he).1⟩

/-- One extraction adds its entry and its report to what is there. -/
theorem step_of_reportable (acc : Extracted) (h : Reportable r e) :
    runAll.step r acc e =
      .ok ⟨acc.bindings.update (binding? r e).toList, acc.errors ++ (report? r e).toList⟩ := by
  obtain ⟨⟨result, hresult⟩, hwritten⟩ := h
  rw [runAll.step, binding?, report?]
  cases hrun : e.run r with
  | ok v =>
    have hsome : ¬ v.written?.isNone = true := fun hnone =>
      hwritten ⟨v, hrun, Option.isNone_iff_eq_none.1 hnone⟩
    simp [hsome, resultOf, ExtractionResult.found, Except.toOption, Entries.update, Entries.put]
  | error failure =>
    cases failure with
    | error x =>
      simp [resultOf, ExtractionResult.failed, Except.toOption, Entries.update]
    | fault f =>
      rw [hrun] at hresult
      cases hresult

theorem foldlM_of_reportable (acc : Extracted) (h : ∀ e ∈ es, Reportable r e) :
    es.foldlM (fun acc e => runAll.step r acc e) acc =
      .ok ⟨acc.bindings.update (es.filterMap (binding? r)),
        acc.errors ++ es.filterMap (report? r)⟩ := by
  induction es generalizing acc with
  | nil => simp [Entries.update, pure, Except.pure]
  | cons e es ih =>
    rw [List.forall_mem_cons] at h
    rw [List.foldlM_cons, step_of_reportable acc h.1, List.filterMap_cons, List.filterMap_cons]
    refine (ih _ h.2).trans ?_
    cases binding? r e <;> cases report? r e <;> simp [Entries.update]

/-- All extractions together: their entries, the later ones over the earlier ones, and their
    reports. -/
theorem runAll_of_reportable (h : ∀ e ∈ es, Reportable r e) :
    runAll r es = .ok ⟨.ofList (es.filterMap (binding? r)), es.filterMap (report? r)⟩ := by
  cases es with
  | nil => rfl
  | cons e es => exact foldlM_of_reportable Extracted.none h

/-! ## Values that cannot be reported -/

theorem step_of_unreportable (acc : Extracted) (h : Unreportable e r) :
    runAll.step r acc e = .error .badValue := by
  obtain ⟨v, hrun, hwritten⟩ := h
  simp [runAll.step, hrun, hwritten]

theorem foldlM_of_unreportable (acc : Extracted)
    (hresults : ∀ e ∈ es, ∃ result, resultOf (e.run r) = .ok result)
    (h : ∃ e ∈ es, Unreportable e r) :
    es.foldlM (fun acc e => runAll.step r acc e) acc = .error .badValue := by
  induction es generalizing acc with
  | nil => simp at h
  | cons e es ih =>
    rw [List.forall_mem_cons] at hresults
    rw [List.foldlM_cons]
    by_cases hhere : Unreportable e r
    · rw [step_of_unreportable acc hhere]
      rfl
    · rw [step_of_reportable acc ⟨hresults.1, hhere⟩]
      apply ih _ hresults.2
      simpa [hhere] using h

/-- A value that cannot be written ends all extractions with a fault, though each of them has a
    result. -/
theorem runAll_of_unreportable (hresults : ∀ e ∈ es, ∃ result, resultOf (e.run r) = .ok result)
    (h : ∃ e ∈ es, Unreportable e r) : runAll r es = .error .badValue := by
  cases es with
  | nil => simp at h
  | cons e es => exact foldlM_of_unreportable Extracted.none hresults h

/-! ## Accounts -/

/-- What comes of a list of extractions accounts for each of them: just the names of those that
    succeed are bound, each to the value of the last one that does, and each one that fails is
    reported, in the order of the list. -/
structure Accounts (r : Response) (es : List Extraction) (extracted : Extracted) : Prop where
  distinct : extracted.bindings.Distinct
  bindings : ∀ key v, (key, v) ∈ extracted.bindings ↔
    ∃ before e after, es = before ++ e :: after ∧ key = .text e.bound ∧ e.run r = .ok v ∧
      ∀ e' ∈ after, e'.bound = e.bound → ∀ w, e'.run r ≠ .ok w
  failures : ∀ e ∈ es, (report? r e).isSome ↔ ∀ v, e.run r ≠ .ok v
  errors : extracted.errors = es.filterMap (report? r)

/-- An entry is the latest of its name if its extraction is the last one for the name that
    succeeds. -/
theorem latest_entries {key : Value} :
    Latest Prod.fst (key, v) (es.filterMap (binding? r)) ↔
      ∃ (before : List Extraction) (e : Extraction) (after : List Extraction),
        es = before ++ e :: after ∧ key = .text e.bound ∧ e.run r = .ok v ∧
        ∀ e' ∈ after, e'.bound = e.bound → ∀ w, e'.run r ≠ .ok w := by
  -- No later binding of the key is the same as no later extraction of the name that succeeds.
  have hfresh : ∀ {e : Extraction} {after : List Extraction},
      (∀ f ∈ after.filterMap (binding? r), f.1 ≠ .text e.bound) ↔
        ∀ e' ∈ after, e'.bound = e.bound → ∀ w, e'.run r ≠ .ok w := by
    intro e after
    constructor
    · intro h e' he' hbound w hw
      exact h (.text e'.bound, w) (List.mem_filterMap.2 ⟨e', he', binding?_eq_some.2 ⟨rfl, hw⟩⟩)
        (congrArg Value.text hbound)
    · intro h f hf hname
      obtain ⟨e', he', hentry⟩ := List.mem_filterMap.1 hf
      obtain ⟨hkey, hrun⟩ := binding?_eq_some.1 hentry
      exact h e' he' (Value.text.inj (hkey.symm.trans hname)) _ hrun
  constructor
  · intro h
    induction es with
    | nil => exact absurd h Latest.not_nil
    | cons e es ih =>
      have hcases : (binding? r e = some (key, v) ∧
            ∀ f ∈ es.filterMap (binding? r), f.1 ≠ key) ∨
          Latest Prod.fst (key, v) (es.filterMap (binding? r)) := by
        rw [List.filterMap_cons] at h
        cases hentry : binding? r e with
        | none =>
          rw [hentry] at h
          exact .inr h
        | some entry =>
          rw [hentry] at h
          rcases Latest.cons_iff.1 h with ⟨rfl, hnames⟩ | h
          · exact .inl ⟨rfl, hnames⟩
          · exact .inr h
      rcases hcases with ⟨hentry, hnames⟩ | h
      · obtain ⟨rfl, hrun⟩ := binding?_eq_some.1 hentry
        exact ⟨[], e, es, rfl, rfl, hrun, hfresh.1 hnames⟩
      · obtain ⟨before, e', after, rfl, hfound⟩ := ih h
        exact ⟨e :: before, e', after, rfl, hfound⟩
  · rintro ⟨before, e, after, rfl, rfl, hrun, hafter⟩
    have hentry : binding? r e = some (.text e.bound, v) := binding?_eq_some.2 ⟨rfl, hrun⟩
    rw [List.filterMap_append, List.filterMap_cons, hentry]
    induction before.filterMap (binding? r) with
    | nil => exact .here (hfresh.2 hafter)
    | cons _ _ ih => exact .later ih

/-- Each failure has a report, and no success has one. -/
theorem isSome_report? (h : ∃ result, resultOf (e.run r) = .ok result) :
    (report? r e).isSome ↔ ∀ v, e.run r ≠ .ok v := by
  obtain ⟨result, hresult⟩ := h
  rw [report?]
  cases hrun : e.run r with
  | ok v => simp [resultOf, ExtractionResult.found]
  | error failure =>
    cases failure with
    | error x => simp [resultOf, ExtractionResult.failed]
    | fault f =>
      rw [hrun] at hresult
      cases hresult

theorem accounts_of_reportable (h : ∀ e ∈ es, Reportable r e) :
    ∃ extracted, runAll r es = .ok extracted ∧ Accounts r es extracted := by
  refine ⟨_, runAll_of_reportable h, ?_, ?_, fun e he => isSome_report? (h e he).1, rfl⟩
  · have hempty : Entries.Distinct [] := trivial
    exact Entries.distinct_update hempty _
  · intro key v
    rw [Entries.mem_ofList_text isText_of_entries, latest_entries]

/-! ## Orders -/

theorem distinct_entries (hnames : (es.map bound).Nodup) :
    Entries.Distinct (es.filterMap (binding? r)) := by
  induction es with
  | nil => trivial
  | cons e es ih =>
    rw [List.map_cons, List.nodup_cons] at hnames
    rw [List.filterMap_cons]
    cases hentry : binding? r e with
    | none => exact ih hnames.2
    | some entry =>
      refine ⟨Entries.find?_eq_none.2 ?_, ih hnames.2⟩
      intro f hf hsame
      obtain ⟨e', he', hf'⟩ := List.mem_filterMap.1 hf
      rw [(binding?_eq_some.1 hentry).1, (binding?_eq_some.1 hf').1, Value.sameKey_text,
        beq_iff_eq] at hsame
      exact hnames.1 (hsame ▸ List.mem_map_of_mem he')

/-- With distinct names no entry is replaced. -/
theorem runAll_of_nodup (h : ∀ e ∈ es, Reportable r e) (hnames : (es.map bound).Nodup) :
    runAll r es = .ok ⟨es.filterMap (binding? r), es.filterMap (report? r)⟩ := by
  rw [runAll_of_reportable h, Entries.ofList_of_distinct (distinct_entries hnames)]

/-- Where each extraction has a result, all of them come to an end unless a value that one of them
    finds cannot be written; what comes of them accounts for each, and with distinct names another
    order gives the same entries and the errors in that order. -/
theorem runAll_accounts (hresults : ∀ e ∈ es, ∃ result, resultOf (e.run r) = .ok result) :
    ((∃ e ∈ es, Unreportable e r) → runAll r es = .error .badValue) ∧
    ((∀ e ∈ es, ¬ Unreportable e r) →
      ∃ extracted, runAll r es = .ok extracted ∧ Accounts r es extracted ∧
        ((es.map bound).Nodup → ∀ es', es.Perm es' →
          ∃ extracted', runAll r es' = .ok extracted' ∧ Accounts r es' extracted' ∧
            extracted.bindings.Perm extracted'.bindings ∧
            ∀ n, extracted'.bindings.get? n = extracted.bindings.get? n)) := by
  refine ⟨runAll_of_unreportable hresults, fun hwritten => ?_⟩
  have h : ∀ e ∈ es, Reportable r e := fun e he => ⟨hresults e he, hwritten e he⟩
  obtain ⟨extracted, hrun, haccounts⟩ := accounts_of_reportable h
  refine ⟨extracted, hrun, haccounts, fun hnames es' hperm => ?_⟩
  have h' : ∀ e ∈ es', Reportable r e := fun e he => h e (hperm.mem_iff.2 he)
  have hnames' : (es'.map bound).Nodup := (hperm.map bound).nodup_iff.1 hnames
  obtain ⟨extracted', hrun', haccounts'⟩ := accounts_of_reportable h'
  have hbindings : extracted.bindings.Perm extracted'.bindings := by
    rw [runAll_of_nodup h hnames] at hrun
    rw [runAll_of_nodup h' hnames'] at hrun'
    cases hrun
    cases hrun'
    exact hperm.filterMap _
  refine ⟨extracted', hrun', haccounts', hbindings, fun n => ?_⟩
  exact haccounts'.distinct.get?_perm haccounts.distinct hbindings.symm n

/-- A status, a header that is not there, and a header whose default stands in. -/
def mixedExtractions : List Extraction :=
  [⟨.status, "", "code", none, none⟩, ⟨.header, "X-Token", "token", none, none⟩,
    ⟨.header, "X-Plan", "plan", some (.text "free"), none⟩]

theorem mixedExtractions_account :
    (∀ e ∈ mixedExtractions, ∃ result, resultOf (e.run letterResponse) = .ok result) ∧
    (∀ e ∈ mixedExtractions, ¬ Unreportable e letterResponse) ∧
    (mixedExtractions.map bound).Nodup ∧ mixedExtractions.Perm mixedExtractions.reverse ∧
    ∃ extracted extracted', runAll letterResponse mixedExtractions = .ok extracted ∧
      runAll letterResponse mixedExtractions.reverse = .ok extracted' ∧
      extracted.bindings.Perm extracted'.bindings ∧
      extracted'.errors = ["Failed to extract 'token': Header 'X-Token' not found"] := by
  have hresults : ∀ e ∈ mixedExtractions,
      ∃ result, resultOf (e.run letterResponse) = .ok result := by
    simp only [mixedExtractions, List.forall_mem_cons]
    exact ⟨⟨_, rfl⟩, ⟨_, rfl⟩, ⟨_, rfl⟩, nofun⟩
  have hwritten : ∀ e ∈ mixedExtractions, ¬ Unreportable e letterResponse := by
    have hstatus : Value.intText? 200 = some "200" :=
      Numeral.intText?_of_short (Numeral.short_of_lt (k := 3) (by decide) (by decide))
    have hfree : (Value.text "free").written? ≠ none := nofun
    simp only [mixedExtractions, List.forall_mem_cons]
    refine ⟨?_, ?_, ?_, nofun⟩
    · rintro ⟨v, hv, hnone⟩
      cases hv
      rw [Value.written?, letterResponse, hstatus] at hnone
      cases hnone
    · rintro ⟨v, hv, -⟩
      cases hv
    · rintro ⟨v, hv, hnone⟩
      cases hv
      exact hfree hnone
  have hnames : (mixedExtractions.map bound).Nodup := by decide
  have hperm := (List.reverse_perm mixedExtractions).symm
  obtain ⟨extracted, hrun, -, horders⟩ := (runAll_accounts hresults).2 hwritten
  obtain ⟨extracted', hrun', haccounts, hbindings, -⟩ := horders hnames _ hperm
  exact ⟨hresults, hwritten, hnames, hperm, extracted, extracted', hrun, hrun', hbindings,
    haccounts.errors.trans rfl⟩

/-- The square of a body that is a number. -/
def squareExtraction : Extraction :=
  ⟨.jsonPath, "$", "square", none, some "value*value"⟩

/-- A body that is a number. -/
def numberResponse (n : Int) : Response :=
  ⟨200, [], .int n, Binary64.zero false⟩

theorem compile_square : Transform.compile "value*value" =
    .ok (.binary .mul (.name "value") (.name "value")) := by
  have hlex : Transform.lex "value*value".toList =
      some [.word "value", .sign "*", .word "value"] := by cbv
  have hread : Transform.expressions (40 * ("value*value".toList.length + 2))
      [.word "value", .sign "*", .word "value"] =
        some ([.binary .mul (.name "value") (.name "value")], false) := by cbv
  have hparse : Transform.parse? "value*value".toList =
      some (.binary .mul (.name "value") (.name "value")) := by
    rw [Transform.parse?, hlex, Option.bind_eq_bind, Option.bind_some, hread]
    rfl
  have hcomplaint : (Transform.Expr.binary .mul (.name "value") (.name "value")).complaint? =
      none := by cbv
  exact Transform.compile_of_parse? (by decide) (by decide) (by decide) hparse hcomplaint

theorem run_square (n : Int) : squareExtraction.run (numberResponse n) = .ok (.int (n * n)) := by
  have hroot : Query.parse "$" = .ok [] := by
    have htrim : Text.trim "$".toList = ['$'] := by decide
    rw [Query.parse, Query.parseWith, htrim]
    simp [Query.selectors]
  have hfound : Query.evaluate "$" (.int n) = .ok [.int n] := by
    rw [Query.evaluate, hroot]
    rfl
  have hlookup : squareExtraction.lookup (numberResponse n) = .ok (.int n) := by
    change fromPath (.int n) "$" = _
    simp [fromPath, Value.isNull, Body.document, hfound, single?]
  have heval : Transform.eval (.int n) (.binary .mul (.name "value") (.name "value")) =
      .ok (.fresh (.int (n * n))) := rfl
  have happly : Transform.apply (.int n) "value*value" = .ok (.int (n * n)) := by
    rw [Transform.apply, compile_square]
    exact congrArg (fun r => (r.map (·.value)).mapError Transform.Error.reported) heval
  have htransform : squareExtraction.transform.filter (fun t => !t.isEmpty) =
      some "value*value" := rfl
  rw [run, hlookup, htransform]
  simp [orDefault, transformed, happly, bind, Except.bind]

/-- The square of a long number is found, but there is no account of it. -/
theorem runAll_not_total : ¬ ∀ (r : Response) (es : List Extraction),
    (∀ e ∈ es, ∃ result, resultOf (e.run r) = .ok result) →
      ∃ extracted, runAll r es = .ok extracted := by
  intro h
  obtain ⟨n, hn⟩ : ∃ n : Int, (Value.int (n * n)).written? = none :=
    ⟨_, Transform.written?_square (k := 4000) (by decide)⟩
  have hresult : ∀ e ∈ [squareExtraction],
      ∃ result, resultOf (e.run (numberResponse n)) = .ok result := by
    rw [List.forall_mem_singleton, run_square]
    exact ⟨_, rfl⟩
  obtain ⟨extracted, hrun⟩ := h _ _ hresult
  have hfault : runAll (numberResponse n) [squareExtraction] = .error .badValue :=
    runAll_of_unreportable hresult ⟨_, List.mem_singleton_self _, _, run_square n, hn⟩
  rw [hfault] at hrun
  cases hrun

end ApiJourney.Extraction
