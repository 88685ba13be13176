-- SUMMARY: A body that is a document decides as its text does.
import ApiJourney.Proofs.Flow.Run
import ApiJourney.Proofs.Json.Written

/-!
# Structured and textual bodies

Processing a response looks at its body in three ways only: whether there is one, which document
it holds and which text it is. Two bodies that agree in these lead to the same outcome and the
same state. A document and its compact text agree in them, as long as the containers of the
document are nested no deeper than a reader of texts follows.
-/

namespace ApiJourney

/-- Two bodies agree in all that is read off a body. -/
structure Body.Agree (a b : Value) : Prop where
  isNull : a.isNull = b.isNull
  document : Body.document a = Body.document b
  text : Body.text a = Body.text b

/-- A response with another body. -/
def Response.withBody (r : Response) (body : Value) : Response :=
  { r with body }

variable {r : Response} {a b : Value}

/-! ## Extractions -/

namespace Extraction

theorem fromPath_agree (h : Body.Agree a b) (path : String) :
    fromPath a path = fromPath b path := by
  simp only [fromPath, h.isNull, h.document]

theorem fromRegex_agree (h : Body.Agree a b) (path : String) :
    fromRegex a path = fromRegex b path := by
  simp only [fromRegex, h.text]

/-- The kinds that look at the body see it as a document or as a text. -/
theorem lookup_agree (h : Body.Agree a b) (e : Extraction) :
    e.lookup (r.withBody a) = e.lookup (r.withBody b) := by
  unfold lookup
  cases e.kind with
  | jsonPath => exact fromPath_agree h e.path
  | header => rfl
  | regex => exact fromRegex_agree h e.path
  | status => rfl

theorem run_agree (h : Body.Agree a b) (e : Extraction) :
    e.run (r.withBody a) = e.run (r.withBody b) := by
  rw [run, run, lookup_agree h]

theorem runAll_agree (h : Body.Agree a b) (es : List Extraction) :
    runAll (r.withBody a) es = runAll (r.withBody b) es := by
  have hstep : runAll.step (r.withBody a) = runAll.step (r.withBody b) := by
    funext acc e
    rw [runAll.step, runAll.step, run_agree h]
  cases es with
  | nil => rfl
  | cons e es => simp only [runAll, hstep]

end Extraction

/-! ## Conditions -/

namespace Condition

theorem fieldSubject_agree (h : Body.Agree a b) (path : String) :
    fieldSubject a path = fieldSubject b path := by
  simp only [fieldSubject, h.isNull, h.document]

/-- A condition on a path sees the body as a document, and the others do not look at it. -/
theorem isMet_agree (h : Body.Agree a b) (c : Condition) :
    c.isMet (r.withBody a) = c.isMet (r.withBody b) := by
  unfold isMet
  split
  · next path _ =>
    have hsubject : fieldSubject (r.withBody a).body path = fieldSubject (r.withBody b).body path :=
      fieldSubject_agree h path
    rw [hsubject]
  · rfl
  · rfl
  · rfl

end Condition

/-! ## Processing -/

namespace Journey

theorem takenBranch?_agree (h : Body.Agree a b) (branches : List Branch) :
    takenBranch? (r.withBody a) branches = takenBranch? (r.withBody b) branches := by
  induction branches with
  | nil => rfl
  | cons branch branches ih =>
    rw [takenBranch?, takenBranch?, Condition.isMet_agree h, ih]

theorem transition_agree (h : Body.Agree a b) (j : Journey) (s : Step) :
    j.transition s (r.withBody a) = j.transition s (r.withBody b) := by
  have hplain : j.plainTransition s (r.withBody a) = j.plainTransition s (r.withBody b) := rfl
  rw [transition, transition, takenBranch?_agree h, hplain]

/-- Responses that differ in their bodies only, and these agree, are processed alike. -/
theorem process_agree (h : Body.Agree a b) (j : Journey) (s : Step) (state : FlowState) :
    j.process s (r.withBody a) state = j.process s (r.withBody b) state := by
  rw [process, process, Extraction.runAll_agree h, transition_agree h]

end Journey

/-! ## Documents and their texts -/

namespace Body

theorem text_of_document {n : Nat} {d : Value} (hd : Json.Document n d) (hnull : d ≠ .null)
    (htext : ∀ s, d ≠ .text s) : text d = Json.text d := by
  cases hd with
  | null => exact absurd rfl hnull
  | text s => exact absurd rfl (htext s)
  | _ => rfl

theorem document_of_document {n : Nat} {d : Value} (hd : Json.Document n d)
    (htext : ∀ s, d ≠ .text s) : document d = .ok d := by
  cases hd with
  | text s => exact absurd rfl (htext s)
  | _ => rfl

end Body

namespace Journey

/-- A document that is neither null nor a text, and is nested no deeper than a reader follows,
    has a compact text; the text holds the document again, with its keys in order; and as bodies
    of a response the text and the document lead to the same outcome and the same state. -/
theorem process_textual {n : Nat} {d : Value} (hd : Json.Document n d) (hn : n ≤ Json.maxDepth)
    (hnull : d ≠ .null) (htext : ∀ s, d ≠ .text s) :
    ∃ t, Body.text d = .ok t ∧ Body.document (.text t) = .ok d ∧
      ∀ (j : Journey) (s : Step) (r : Response) (state : FlowState),
        j.process s (r.withBody (.text t)) state = j.process s (r.withBody d) state := by
  obtain ⟨t, hwritten, hread⟩ := Json.parse_text hd hn
  rw [← Body.text_of_document hd hnull htext] at hwritten
  have hagree : Body.Agree (.text t) d := by
    refine ⟨?_, hread.trans (Body.document_of_document hd htext).symm, hwritten.symm⟩
    cases d with
    | null => exact absurd rfl hnull
    | _ => rfl
  exact ⟨t, hwritten, hread, fun j s r state => process_agree hagree j s state⟩

/-- An object with a number, a text with a quote and a line break, and containers in a list. -/
def orderDocument : Value :=
  .dict [
    (.text "id", .int (-70)),
    (.text "na\"me\n", .text "Tee\t\u0001"),
    (.text "items", .list [.null, .bool true, .list [], .dict [(.text "", .int 0)]])]

theorem document_orderDocument : Json.Document 3 orderDocument := by
  have hshort : ∀ k : Int, k.natAbs < 10 ^ 2 → Numeral.Short k := fun k hk =>
    Numeral.short_of_lt (by decide) hk
  have hinner : Json.Document 1 (.dict [(.text "", .int 0)]) := by
    refine .dict ?_ ⟨rfl, trivial⟩ ?_
    · exact List.forall_mem_singleton.2 ⟨"", rfl⟩
    · exact List.forall_mem_singleton.2 (.int (hshort 0 (by decide)))
  have hitems :
      Json.Document 2 (.list [.null, .bool true, .list [], .dict [(.text "", .int 0)]]) := by
    refine .list ?_
    simp only [List.forall_mem_cons]
    exact ⟨.null, .bool true, .list nofun, hinner, nofun⟩
  refine .dict ?_ ⟨rfl, rfl, rfl, trivial⟩ ?_
  · simp only [List.forall_mem_cons]
    exact ⟨⟨"id", rfl⟩, ⟨"na\"me\n", rfl⟩, ⟨"items", rfl⟩, nofun⟩
  · simp only [List.forall_mem_cons]
    exact ⟨.int (hshort (-70) (by decide)), .text _, hitems, nofun⟩

theorem orderDocument_textual :
    Json.Document 3 orderDocument ∧ 3 ≤ Json.maxDepth ∧ orderDocument ≠ .null ∧
      (∀ s, orderDocument ≠ .text s) ∧
      ∃ t, Body.text orderDocument = .ok t ∧ Body.document (.text t) = .ok orderDocument ∧
        ∀ (j : Journey) (s : Step) (r : Response) (state : FlowState),
          j.process s (r.withBody (.text t)) state =
            j.process s (r.withBody orderDocument) state :=
  ⟨document_orderDocument, by decide, nofun, nofun,
    process_textual document_orderDocument (by decide) nofun nofun⟩

/-! ## A document nested too deep -/

/-- A step that looks for a member of the body. -/
def memberStep : Step :=
  { plainStep "create" none with extract := [⟨.jsonPath, "$.x", "x", none, none⟩] }

theorem parse_member : Query.parse "$.x" = .ok [.members [.name "x"]] := by
  cbv

/-- Lists have no such member, which is an error but no fault. -/
theorem fromPath_list (xs : List Value) :
    Extraction.fromPath (.list xs) "$.x" = .error (.error (.noMatch "$.x")) := by
  have hevaluate : Query.evaluate "$.x" (.list xs) = .ok [] := by
    rw [Query.evaluate, parse_member]
    rfl
  simp [Extraction.fromPath, Value.isNull, Body.document, hevaluate, Extraction.single?]

theorem runAll_nested (n : Nat) :
    ∃ extracted, Extraction.runAll ((plainResponse 200).withBody (Json.nested n))
      memberStep.extract = .ok extracted := by
  obtain ⟨xs, hxs⟩ : ∃ xs, Json.nested n = .list xs := by
    cases n with
    | zero => exact ⟨[], rfl⟩
    | succ n => exact ⟨[Json.nested n], rfl⟩
  have hrun : Extraction.run ⟨.jsonPath, "$.x", "x", none, none⟩
      ((plainResponse 200).withBody (.list xs)) = .error (.error (.noMatch "$.x")) := by
    simp only [Extraction.run, Extraction.lookup, Response.withBody, fromPath_list]
    rfl
  simp only [hxs, memberStep, Extraction.runAll, Extraction.runAll.step, List.foldlM_cons, hrun]
  exact ⟨_, rfl⟩

theorem runAll_nestedText {n : Nat} (h : Json.maxDepth ≤ n) :
    Extraction.runAll ((plainResponse 200).withBody (.text (String.ofList (Json.nestedText n))))
      memberStep.extract = .error .tooDeep := by
  have hdocument : Body.document (.text (String.ofList (Json.nestedText n))) = .error .tooDeep :=
    Json.parse_nestedText h
  have hpath : Extraction.fromPath (.text (String.ofList (Json.nestedText n))) "$.x" =
      .error (.fault .tooDeep) := by
    rw [Extraction.fromPath, hdocument]
    rfl
  have hrun : Extraction.run ⟨.jsonPath, "$.x", "x", none, none⟩
      ((plainResponse 200).withBody (.text (String.ofList (Json.nestedText n)))) =
        .error (.fault .tooDeep) := by
    simp only [Extraction.run, Extraction.lookup, Response.withBody, hpath]
    rfl
  simp only [memberStep, Extraction.runAll, Extraction.runAll.step, List.foldlM_cons, hrun]
  rfl

/-- A document nested deeper than a reader follows is processed, and its text is not. -/
theorem process_not_textual : ¬ ∀ (n : Nat) (d : Value), Json.Document n d → d ≠ .null →
    (∀ s, d ≠ .text s) → ∃ t, Body.text d = .ok t ∧
      ∀ (j : Journey) (s : Step) (r : Response) (state : FlowState),
        j.process s (r.withBody (.text t)) state = j.process s (r.withBody d) state := by
  intro h
  obtain ⟨n, hn⟩ : ∃ n, Json.maxDepth ≤ n := ⟨Json.maxDepth, Nat.le_refl _⟩
  have hnull : Json.nested n ≠ .null := by
    cases n <;> nofun
  have htext : ∀ s, Json.nested n ≠ .text s := by
    cases n <;> nofun
  have hwritten : Body.text (Json.nested n) = .ok (String.ofList (Json.nestedText n)) := by
    rw [Body.text_of_document (Json.document_nested n) hnull htext, Json.text, Json.write_nested]
    rfl
  obtain ⟨t, ht, hsame⟩ := h _ _ (Json.document_nested n) hnull htext
  obtain rfl := Except.ok.inj (ht.symm.trans hwritten)
  have hsame := hsame (plainJourney [memberStep]) memberStep (plainResponse 200)
    ((plainJourney [memberStep]).newState [])
  obtain ⟨extracted, hextracted⟩ := runAll_nested n
  rw [process, process, hextracted, runAll_nestedText hn] at hsame
  cases hsame

end Journey

end ApiJourney
