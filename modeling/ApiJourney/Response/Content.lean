-- SUMMARY: Responses to the requests of a journey: their bodies and headers.
import ApiJourney.Json.Printer
import ApiJourney.Json.Reader
import ApiJourney.Schema.Record
import ApiJourney.Text.Case
import ApiJourney.Value.Basic

/-!
# Responses

A response has a status, headers, a body of any kind and the time it took. A body that is
a text is read as JSON when a document is needed, and a body that is a document is written
as compact JSON when a text is needed. Header names are compared without regard to case.
-/

namespace ApiJourney

structure Response where
  status : Int
  headers : Entries
  body : Value
  time : Float

namespace Response

open Schema

def read (v : Value) : Verdict Response :=
  record "StepResponse" v fun es =>
    Response.mk
      <$> required es ["statusCode", "status_code"] integer
      <*> withDefault es ["headers"] [] values
      <*> withDefault es ["body"] .null anything
      <*> withDefault es ["responseTime", "responseTimeMs", "response_time"] (Binary64.zero false) number

def toValue (r : Response) : Value :=
  .object [
    ("statusCode", .int r.status),
    ("headers", .dict r.headers),
    ("body", r.body),
    ("responseTime", .float r.time)]

/-- The statuses from 200 to 299. -/
def isSuccess (r : Response) : Bool :=
  200 ≤ r.status && r.status < 300

end Response

/-! ## Content -/

namespace Body

open Text

/-- The document that a body holds. -/
def document : Value → Except Fault Value
  | .bytes bs => Json.read (Utf8.decodeLossy bs)
  | .text s => Json.parse s
  | v => .ok v

/-- The text of a body. -/
def text : Value → Except Fault String
  | .null => .ok ""
  | .bytes bs => .ok (String.ofList (Utf8.decodeLossy bs))
  | .text s => .ok s
  | v => Json.text v

end Body

namespace Headers

/-- The value of the first header whose name is `name` without regard to case. -/
def find? (name : String) : Entries → Option Value
  | [] => none
  | (k, v) :: rest =>
    match k.shown? with
    | some key => if Text.lowered key = Text.lowered name then some v else find? name rest
    | none => find? name rest

/-- The value of a header, null when there is none; no header has an empty name. -/
def lookup (headers : Entries) (name : String) : Value :=
  if name.isEmpty then .null else (find? name headers).getD .null

end Headers

end ApiJourney
