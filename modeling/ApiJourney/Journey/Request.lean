-- SUMMARY: Request templates.
import ApiJourney.Schema.Record
import ApiJourney.Text.Case
import ApiJourney.Value.Basic

/-!
# Request templates

A template of a request: its texts may hold placeholders. What the response is
expected to be is only recorded.
-/

namespace ApiJourney

open Schema

structure Expectations where
  statusCode : Option Value
  contentType : Option String
  hasFields : Option (List String)
  maxResponseTime : Option Float

namespace Expectations

/-- One status, or a list of them. -/
def readStatus : Value → Verdict Value :=
  either
    ("int", fun v => Value.int <$> integer v)
    ("list[int]", fun v => Value.ofList .int <$> list integer v)

def read (v : Value) : Verdict Expectations :=
  record "Expectations" v fun es =>
    Expectations.mk
      <$> optional es ["statusCode", "status_code"] readStatus
      <*> optional es ["contentType", "content_type"] text
      <*> optional es ["hasFields", "has_fields"] (list text)
      <*> optional es ["maxResponseTime", "max_response_time"] number

def toValue (e : Expectations) : Value :=
  .object [
    ("statusCode", .ofOption id e.statusCode),
    ("contentType", .ofOption .text e.contentType),
    ("hasFields", .ofOption Value.texts e.hasFields),
    ("maxResponseTime", .ofOption .float e.maxResponseTime)]

end Expectations

structure RequestTemplate where
  method : String
  url : String
  headers : List (String × String)
  json : Value
  body : Option String
  queryParams : List (String × String)
  timeout : Option Float
  expect : Option Expectations

namespace RequestTemplate

def methods : List String :=
  ["GET", "POST", "PUT", "PATCH", "DELETE", "HEAD", "OPTIONS"]

/-- A method in upper case. -/
def readMethod (v : Value) : Verdict String :=
  (text v).andThen fun s =>
    let upper := String.ofList (Text.upper s.toList)
    if methods.contains upper then .accepted upper
    else
      let known := ((Value.texts methods).written?).getD ""
      .refuse (.rule s!"method must be one of {known}, got '{s}'")

def read (v : Value) : Verdict RequestTemplate :=
  record "RequestTemplate" v fun es =>
    RequestTemplate.mk
      <$> required es ["method"] readMethod
      <*> required es ["url"] text
      <*> withDefault es ["headers"] [] texts
      <*> withDefault es ["json", "json_body"] .null anything
      <*> optional es ["body"] text
      <*> withDefault es ["queryParams", "query_params"] [] texts
      <*> optional es ["timeout"] (numberAbove 0)
      <*> optional es ["expect"] Expectations.read

def toValue (r : RequestTemplate) : Value :=
  .object [
    ("method", .text r.method),
    ("url", .text r.url),
    ("headers", .textMap r.headers),
    ("json", r.json),
    ("body", .ofOption .text r.body),
    ("queryParams", .textMap r.queryParams),
    ("timeout", .ofOption .float r.timeout),
    ("expect", .ofOption Expectations.toValue r.expect)]

end RequestTemplate

end ApiJourney
