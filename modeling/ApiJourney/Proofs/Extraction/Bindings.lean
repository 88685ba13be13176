-- SUMMARY: Which names a list of extractions binds, and to which values.
import ApiJourney.Extraction.Evaluation
import ApiJourney.Proofs.Query.Matches
import ApiJourney.Proofs.Response.Content
import ApiJourney.Proofs.Schema.Acceptance
import ApiJourney.Proofs.Transform.Keys

/-!
# What extractions bind

Extractions bind names one after the other, and one that fails binds nothing. So a name is
bound to the value of the last extraction for it that succeeds.

The value holds no key twice, if neither the response nor a default does: it is a part of the
response, a text, a default, or what a transform makes of one of these.
-/

namespace ApiJourney.Extraction

variable {r : Response} {n : String} {es : List Extraction} {v : Value}

/-- The value of the last extraction for a name that succeeds. -/
def lastFound? (r : Response) (n : String) : List Extraction → Option Value
  | [] => none
  | e :: rest => (lastFound? r n rest).or (if e.bound = n then (e.run r).toOption else none)

/-- Extractions bind a name to a value: all of them come to an end, and the last one for the
    name that succeeds gives the value. -/
def Binds (es : List Extraction) (r : Response) (n : String) (v : Value) : Prop :=
  (∃ extracted, runAll r es = .ok extracted) ∧
    ∃ before e after, es = before ++ e :: after ∧ e.bound = n ∧ e.run r = .ok v ∧
      ∀ e' ∈ after, e'.bound = n → ∀ w, e'.run r ≠ .ok w

theorem lastFound?_eq_none :
    lastFound? r n es = none ↔ ∀ e ∈ es, e.bound = n → ∀ w, e.run r ≠ .ok w := by
  induction es with
  | nil => simp [lastFound?]
  | cons e es ih =>
    rw [lastFound?, Option.or_eq_none_iff, ih, List.forall_mem_cons, and_comm]
    refine and_congr_left fun _ => ?_
    by_cases hbound : e.bound = n
    · cases hrun : e.run r <;> simp [hbound, Except.toOption]
    · simp [hbound]

theorem lastFound?_eq_some :
    lastFound? r n es = some v ↔
      ∃ (before : List Extraction) (e : Extraction) (after : List Extraction),
        es = before ++ e :: after ∧ e.bound = n ∧ e.run r = .ok v ∧
        ∀ e' ∈ after, e'.bound = n → ∀ w, e'.run r ≠ .ok w := by
  constructor
  · intro h
    induction es with
    | nil => cases h
    | cons e es ih =>
      rw [lastFound?] at h
      cases hrest : lastFound? r n es with
      | some w =>
        rw [hrest] at h
        cases h
        obtain ⟨before, e', after, rfl, hfound⟩ := ih hrest
        exact ⟨e :: before, e', after, rfl, hfound⟩
      | none =>
        rw [hrest, Option.none_or] at h
        split at h
        · next hbound =>
          exact ⟨[], e, es, rfl, hbound, toOption_eq_some.1 h, lastFound?_eq_none.1 hrest⟩
        · cases h
  · rintro ⟨before, e, after, rfl, hbound, hrun, hafter⟩
    induction before with
    | nil =>
      rw [List.nil_append, lastFound?, lastFound?_eq_none.2 hafter, if_pos hbound, hrun]
      rfl
    | cons e' before ih => rw [List.cons_append, lastFound?, ih, Option.some_or]

/-! ## All extractions -/

theorem get?_step {acc extracted : Extracted} {e : Extraction}
    (h : runAll.step r acc e = .ok extracted) (n : String) :
    extracted.bindings.get? n =
      (if e.bound = n then (e.run r).toOption else none).or (acc.bindings.get? n) := by
  unfold runAll.step at h
  split at h
  · next v hrun =>
    split at h
    · cases h
    · cases h
      rw [Entries.get?_put, hrun]
      split <;> rfl
  · next x hrun =>
    cases h
    rw [hrun]
    split <;> rfl
  · cases h

theorem distinct_step {acc extracted : Extracted} {e : Extraction}
    (h : runAll.step r acc e = .ok extracted) (hacc : acc.bindings.Distinct) :
    extracted.bindings.Distinct := by
  unfold runAll.step at h
  split at h
  · split at h
    · cases h
    · cases h
      exact Entries.distinct_insert hacc _ _
  · cases h
    exact hacc
  · cases h

theorem foldlM_step {acc extracted : Extracted}
    (h : es.foldlM (fun acc e => runAll.step r acc e) acc = .ok extracted)
    (hacc : acc.bindings.Distinct) :
    extracted.bindings.Distinct ∧
      ∀ n, extracted.bindings.get? n = (lastFound? r n es).or (acc.bindings.get? n) := by
  induction es generalizing acc with
  | nil =>
    cases h
    exact ⟨hacc, fun _ => rfl⟩
  | cons e es ih =>
    rw [List.foldlM_cons] at h
    obtain ⟨next, hnext, h⟩ := bind_eq_ok.1 h
    obtain ⟨hdistinct, hget⟩ := ih h (distinct_step hnext hacc)
    refine ⟨hdistinct, fun n => ?_⟩
    rw [hget, get?_step hnext, lastFound?, Option.or_assoc]

/-- A name is bound to what the last extraction for it that succeeds has found. -/
theorem runAll_bindings {extracted : Extracted} (h : runAll r es = .ok extracted) :
    extracted.bindings.Distinct ∧
      ∀ n, extracted.bindings.get? n = lastFound? r n es := by
  unfold runAll at h
  split at h
  · cases h
    exact ⟨trivial, fun _ => rfl⟩
  · obtain ⟨hdistinct, hget⟩ := foldlM_step h trivial
    exact ⟨hdistinct, fun n => (hget n).trans Option.or_none⟩

/-! ## Keys -/

section Keys

open Value Schema Verdict

variable {e : Extraction}

theorem single?_wellKeyed {vs : List Value} (h : ∀ v ∈ vs, v.isWellKeyed = true)
    (hv : single? vs = some v) : v.isWellKeyed = true := by
  unfold single? at hv
  split at hv
  · cases hv
  · cases hv
    exact h _ (List.mem_singleton_self _)
  · cases hv
    exact wellKeyedItems_iff.2 h

theorem evaluate_wellKeyed {document : Value} (h : document.isWellKeyed = true) (path : String) :
    Ensures (Query.evaluate path document) (fun vs => ∀ v ∈ vs, v.isWellKeyed = true)
      fun _ => True := by
  refine .andThen fun q => Ensures.mapError ?_
  refine (Query.matchesFrom_parts q [document]).imp_ok fun vs hvs v hv => ?_
  obtain ⟨node, hnode, hpart⟩ := hvs v hv
  cases List.mem_singleton.1 hnode
  exact hpart.wellKeyed h

theorem fromPath_wellKeyed {body : Value} (h : body.isWellKeyed = true) (path : String) :
    Ensures (fromPath body path) (fun v => v.isWellKeyed = true) fun _ => True := by
  refine .ite trivial ?_
  cases hdocument : Body.document body with
  | error f => exact .ite trivial trivial
  | ok document =>
    have hkeyed := (Body.document_ensures body).of_ok hdocument h
    dsimp only
    split
    · trivial
    · trivial
    · next found hfound =>
      split
      · next w hw => exact single?_wellKeyed ((evaluate_wellKeyed hkeyed path).of_ok hfound) hw
      · trivial

theorem fromHeader_wellKeyed {headers : Entries} (h : wellKeyedEntries headers = true)
    (name : String) :
    Ensures (fromHeader headers name) (fun v => v.isWellKeyed = true) fun _ => True := by
  have hlookup : (Headers.lookup headers name).isWellKeyed = true := by
    unfold Headers.lookup
    split
    · rfl
    · cases hfound : Headers.find? name headers with
      | none => rfl
      | some v => exact Headers.find?_wellKeyed h hfound
  unfold fromHeader
  split
  · trivial
  · exact hlookup

theorem fromRegex_wellKeyed (body : Value) (path : String) :
    Ensures (fromRegex body path) (fun v => v.isWellKeyed = true) fun _ => True := by
  unfold fromRegex
  cases splitGroup path.toList with
  | mk expression digits =>
    refine .andThen fun group => ?_
    split
    · trivial
    · trivial
    · refine .andThen fun text => ?_
      dsimp only
      split <;> trivial

/-- No object in the default of an extraction holds a key twice. -/
def KeyedDefault (e : Extraction) : Prop :=
  ∀ v, e.default = some v → v.isWellKeyed = true

theorem lookup_wellKeyed (hr : r.WellKeyed) (e : Extraction) :
    Ensures (e.lookup r) (fun v => v.isWellKeyed = true) fun _ => True := by
  unfold lookup
  split
  · exact fromPath_wellKeyed hr.body _
  · exact fromHeader_wellKeyed hr.headers _
  · exact fromRegex_wellKeyed _ _
  · exact rfl

/-- What an extraction gives holds no key twice. -/
theorem run_wellKeyed (hr : r.WellKeyed) (he : KeyedDefault e) :
    Ensures (e.run r) (fun v => v.isWellKeyed = true) fun _ => True := by
  have hfound : Ensures (e.orDefault (e.lookup r)) (fun v => v.isWellKeyed = true)
      fun _ => True := by
    unfold orDefault
    split
    · next v _ hdefault => exact .ite trivial (he v hdefault)
    · exact lookup_wellKeyed hr e
  refine hfound.bind fun v hv => ?_
  split
  · next t _ =>
    unfold transformed
    split
    · next w hw => exact (Transform.apply_wellKeyed hv t).of_ok hw
    · trivial
    · trivial
  · exact hv

/-- The default in a document that holds no key twice does not either. -/
theorem keyedDefault_of_read {document : Value} (h : document.isWellKeyed = true)
    (he : read document = .accepted e) : KeyedDefault e := by
  simp only [read, andThen_eq_accepted, record_eq_accepted, seq_eq_accepted, map_eq_accepted] at he
  obtain ⟨read, ⟨es, rfl, mk₄, _, ⟨mk₃, default, ⟨mk₂, _, ⟨mk₁, _, ⟨_, -, rfl⟩, -, rfl⟩, -, rfl⟩,
    hdefault, rfl⟩, -, rfl⟩, hpath⟩ := he
  unfold checkPath at hpath
  split at hpath
  · exact absurd hpath refuse_ne_accepted
  · cases hpath
    intro v hv
    rcases withDefault_eq_accepted.1 hdefault with ⟨_, w, hw, hread⟩ | ⟨-, rfl⟩
    · cases hread
      cases hv
      exact isWellKeyed_of_get? h (get?_of_lookup? hw)
    · cases hv

/-- What a name is bound to holds no key twice. -/
theorem Binds.isKeyed (hr : r.WellKeyed) (hes : ∀ e ∈ es, KeyedDefault e)
    (h : Binds es r n v) : v.isKeyed = true := by
  obtain ⟨-, before, e, after, rfl, -, hrun, -⟩ := h
  have he : KeyedDefault e := hes e (List.mem_append_right _ (List.mem_cons_self ..))
  exact isKeyed_of_isWellKeyed v ((run_wellKeyed hr he).of_ok hrun)

end Keys

end ApiJourney.Extraction
