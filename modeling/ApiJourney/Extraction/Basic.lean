-- SUMMARY: What a step extracts from its response, and what comes of it.
import ApiJourney.Schema.Record
import ApiJourney.Value.Basic

/-!
# Extractions

An extraction binds a value of a response to a variable. It may have a default
for when there is no value, and a transform that the value goes through. Its result
is a value or a message; all extractions of a step together bind variables.
-/

namespace ApiJourney

inductive ExtractionKind where
  | jsonPath | header | regex | status
  deriving DecidableEq

def ExtractionKind.name : ExtractionKind → String
  | jsonPath => "jsonpath"
  | header => "header"
  | regex => "regex"
  | status => "status"

def ExtractionKind.options : List (String × ExtractionKind) :=
  [jsonPath, header, regex, status].map fun k => (k.name, k)

structure Extraction where
  kind : ExtractionKind
  path : String
  bound : String
  default : Option Value
  transform : Option String

namespace Extraction

open Schema

/-- Only the status needs no path. -/
def checkPath (e : Extraction) : Verdict Extraction :=
  if e.kind ≠ .status && e.path.isEmpty then
    .refuse (.rule s!"Extraction '{e.bound}' of type '{e.kind.name}' requires a 'path'")
  else .accepted e

def read (v : Value) : Verdict Extraction :=
  (record "Extraction" v fun es =>
    Extraction.mk
      <$> withDefault es ["type"] .jsonPath (choice ExtractionKind.options)
      <*> withDefault es ["path"] "" text
      <*> required es ["as", "as_"] nonEmptyText
      <*> withDefault es ["default"] none (fun v => .accepted (some v))
      <*> optional es ["transform"] text).andThen checkPath

def toValue (e : Extraction) : Value :=
  .object [
    ("type", .text e.kind.name),
    ("path", .text e.path),
    ("as", .text e.bound),
    ("default", e.default.getD .null),
    ("transform", .ofOption .text e.transform)]

end Extraction

/-! ## Results -/

open Schema

structure ExtractionResult where
  success : Bool
  value : Value
  error : Option String

namespace ExtractionResult

def found (v : Value) : ExtractionResult := ⟨true, v, none⟩
def failed (message : String) : ExtractionResult := ⟨false, .null, some message⟩

def read (v : Value) : Verdict ExtractionResult :=
  record "ExtractionResult" v fun es =>
    ExtractionResult.mk
      <$> required es ["success"] boolean
      <*> withDefault es ["value"] .null anything
      <*> optional es ["error"] text

def toValue (r : ExtractionResult) : Value :=
  .object [("success", .bool r.success), ("value", r.value), ("error", .ofOption .text r.error)]

end ExtractionResult

/-- The variables that a list of extractions binds, and the errors of those that failed. -/
structure Extracted where
  bindings : Entries
  errors : List String

namespace Extracted

def none : Extracted := ⟨[], []⟩

def read (v : Value) : Verdict Extracted :=
  record "ExtractAllResult" v fun es =>
    Extracted.mk
      <$> withDefault es ["variables"] [] values
      <*> withDefault es ["errors"] [] (list text)

def toValue (r : Extracted) : Value :=
  .object [("variables", .dict r.bindings), ("errors", .texts r.errors)]

end Extracted

end ApiJourney
