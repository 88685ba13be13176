-- SUMMARY: What document a body is, and why looking for a path in it can end with a fault.
import ApiJourney.Proofs.Query.Evaluation
import ApiJourney.Proofs.Schema.Acceptance
import ApiJourney.Response.Content

/-!
# Paths into bodies

A body that is a text is a document, one that holds no key twice, unless the text is malformed or
nests too deeply. So looking for a path ends with a fault only if the path fails as a query, or
for the nesting of the text.
-/

namespace ApiJourney

/-! ## Keys -/

open Value Schema Verdict

/-- No object in a response holds a key twice. -/
structure Response.WellKeyed (r : Response) : Prop where
  headers : wellKeyedEntries r.headers = true
  body : r.body.isWellKeyed = true

theorem Schema.values_wellKeyed {v : Value} {es : Entries} (h : values v = .accepted es)
    (hv : v.isWellKeyed = true) : wellKeyedEntries es = true := by
  obtain ⟨found, hfound, rfl⟩ := map_eq_accepted.1 h
  refine wellKeyedEntries_texts (nodup_keys_of_dictionary hfound) fun e he => ?_
  obtain ⟨fields, x, rfl, hx, hread⟩ := exists_of_mem_dictionary hfound he
  rw [← accepted_inj.1 hread]
  exact (wellKeyed_of_mem hv hx).2

theorem Response.wellKeyed_of_read {v : Value} {r : Response} (h : read v = .accepted r)
    (hv : v.isWellKeyed = true) : r.WellKeyed := by
  simp only [read, record_eq_accepted, seq_eq_accepted, map_eq_accepted] at h
  obtain ⟨es, rfl, mk₃, _, ⟨mk₂, body, ⟨mk₁, headers, ⟨_, -, rfl⟩, hheaders, rfl⟩, hbody, rfl⟩,
    -, rfl⟩ := h
  constructor
  · rcases withDefault_eq_accepted.1 hheaders with ⟨_, w, hw, hread⟩ | ⟨-, rfl⟩
    · exact values_wellKeyed hread (isWellKeyed_of_get? hv (get?_of_lookup? hw))
    · rfl
  · rcases withDefault_eq_accepted.1 hbody with ⟨_, w, hw, hread⟩ | ⟨-, rfl⟩
    · cases hread
      exact isWellKeyed_of_get? hv (get?_of_lookup? hw)
    · rfl

/-- A header that is found holds no key twice. -/
theorem Headers.find?_wellKeyed {headers : Entries} (h : wellKeyedEntries headers = true)
    {name : String} (hv : Headers.find? name headers = some v) : v.isWellKeyed = true := by
  induction headers with
  | nil => cases hv
  | cons entry headers ih =>
    obtain ⟨-, -, hw, hrest⟩ := wellKeyedEntries_cons.1 h
    rw [Headers.find?] at hv
    split at hv
    · split at hv
      · cases hv
        exact hw
      · exact ih hrest hv
    · exact ih hrest hv

/-! ## Paths -/

namespace Body

/-- How deeply the text of a body is nested; a body that is a document has no text to read. -/
def textNesting : Value → Nat
  | .bytes bs => Json.nesting (Text.Utf8.decodeLossy bs)
  | .text s => Json.nesting s.toList
  | _ => 0

/-- The document of a body holds no key twice, if the body does not. -/
theorem document_ensures (body : Value) :
    Ensures (document body) (fun v => body.isWellKeyed = true → v.isWellKeyed = true)
      fun f => f.isValue = true ∨ f = .tooDeep ∧ Json.maxDepth < textNesting body := by
  cases body with
  | bytes bs => exact (Json.read_ensures _).imp_ok fun _ hv _ => hv
  | text s => exact (Json.read_ensures _).imp_ok fun _ hv _ => hv
  | _ => exact fun h => h

/-- Why a path into a body ends with a fault: the path fails as a query, or the text of the body
    is nested deeper than what is followed in any place. -/
def Breaks (body : Value) (path : String) (f : Fault) : Prop :=
  Query.Fails path.toList f ∨ f = .tooDeep ∧ plainNesting < textNesting body

theorem Breaks.of_document {body : Value} {path : String} {f : Fault}
    (h : document body = .error f) (hvalue : ¬ f.isValue = true) : Breaks body path f :=
  let ⟨hdeep, hnesting⟩ := ((document_ensures body).of_error h).resolve_left hvalue
  .inr ⟨hdeep, Nat.lt_trans (by decide) hnesting⟩

end Body

end ApiJourney
