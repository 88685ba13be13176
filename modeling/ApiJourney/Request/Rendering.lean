-- SUMMARY: Requests made from the templates of steps.
import ApiJourney.Failure
import ApiJourney.Journey.Basic
import ApiJourney.Template.Filling
import ApiJourney.Url.Resolution

/-!
# Rendering requests

The request of a step is its template with every placeholder filled. Headers of
the journey's defaults come first and those of the step over them; a URL without a
scheme goes below the base of the journey, or below one given besides. Bodies are
filled at any depth: the depth at which a run is out of stack is not modelled.
-/

namespace ApiJourney

open Schema

structure RenderedRequest where
  step : String
  method : String
  url : String
  headers : List (String × String)
  json : Value
  body : Option String
  queryParams : List (String × String)
  timeout : Option Float

namespace RenderedRequest

def toValue (r : RenderedRequest) : Value :=
  .object [
    ("stepId", .text r.step),
    ("method", .text r.method),
    ("url", .text r.url),
    ("headers", .textMap r.headers),
    ("json", r.json),
    ("body", .ofOption .text r.body),
    ("queryParams", .textMap r.queryParams),
    ("timeout", .ofOption .float r.timeout)]

/-! ## Parts -/

/-- A filled URL below a filled base; without a base it stays. -/
def joinUrl (base : Option Value) (url : Value) : Except Fault Value :=
  match base with
  | none => .ok url
  | some base =>
    if !base.truthy then .ok url
    else match url, base with
      | .text u, .text b => (Url.join b.toList u.toList).map fun cs => .text (String.ofList cs)
      | .text u, .bytes _ => if Url.isAbsolute u.toList then .ok url else .error .wrongType
      | .text u, _ => if Url.isAbsolute u.toList then .ok url else .error .noAttribute
      | _, _ => .error .wrongType

/-- The texts of all values of an object, in order. -/
def textEntries : List (Value × Value) → Except Fault Entries
  | [] => .ok []
  | (k, v) :: rest => do
    let t ← Template.textOf v
    let more ← textEntries rest
    .ok ((k, .text t) :: more)

/-- Named texts filled, keys and values. -/
def fillTexts (context : Value) (texts : List (String × String)) : Except Fault Entries := do
  let filled ← Template.fillEntries context [] (texts.map fun (k, v) => (.text k, .text v))
  textEntries filled

/-- The headers of the defaults with those of the step put over them. -/
def mergeHeaders (defaults own : List (String × String)) : List (String × String) :=
  own.foldl (fun hs (k, v) => put k v hs) defaults
where
  put (k v : String) : List (String × String) → List (String × String)
    | [] => [(k, v)]
    | (k', v') :: rest => if k' = k then (k, v) :: rest else (k', v') :: put k v rest

/-- The base of a journey, or the one given besides; an empty one is none. -/
def baseOf (own : Value) (base : Option String) : Option Value :=
  if own.truthy then some own else (Text.given? base).map .text

/-! ## Rendering -/

/-- The parts of a request as they were filled in. -/
structure Draft where
  url : Value
  headers : Entries
  json : Value
  body : Value
  queryParams : Entries

/-- A null stays null; anything else becomes its text. -/
def bodyText (v : Value) : Except Fault Value :=
  if v.isNull then .ok .null else (Template.textOf v).map .text

def draft (j : Journey) (s : Step) (context : Value) (base : Option Value) : Except Fault Draft := do
  let r := s.request
  let root ← match base with
    | none => .ok none
    | some b => (Template.fill context b).map some
  let body ← Template.fill context (.ofOption .text r.body)
  let url ← Template.fillText context r.url
  let url ← joinUrl root url
  let headers ← fillTexts context (mergeHeaders j.defaults.headers r.headers)
  let json ← Template.fillAll context r.json
  let body ← bodyText body
  let queryParams ← fillTexts context r.queryParams
  .ok ⟨url, headers, json, body, queryParams⟩

/-- A draft as a request: its URL is a text, and so are all names. -/
def ofDraft (j : Journey) (s : Step) (d : Draft) : Verdict RenderedRequest :=
  (fun url headers body queryParams =>
    ⟨s.id, s.request.method, url, headers, d.json, body, queryParams,
      s.request.timeout.or j.defaults.timeout⟩)
    <$> (text d.url).under (.field "url")
    <*> (dictionary text (.dict d.headers)).under (.field "headers")
    <*> nullable text d.body
    <*> (dictionary text (.dict d.queryParams)).under (.field "query_params")

/-- The request of a step, filled from a context. -/
def render (j : Journey) (s : Step) (context : Entries) (base : Option Value) :
    Attempt RenderedRequest := do
  let d ← orFault (draft j s (.dict context) base)
  accepted "RenderedRequest" (ofDraft j s d)

end RenderedRequest

end ApiJourney
