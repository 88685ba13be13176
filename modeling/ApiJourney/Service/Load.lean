-- SUMMARY: Requests to load or to check a journey.
import ApiJourney.Schema.Record
import ApiJourney.Value.Basic

/-!
# Load requests

What a client sends to have a journey loaded, with profiles and an environment, or
only checked.
-/

namespace ApiJourney.Service

open Schema

structure LoadRequest where
  journey : Entries
  profiles : Option Entries
  seed : Option Int
  environment : Option Entries
  /-- Where the data sources of the profiles are looked for. -/
  dataFolder : String
  debug : Bool

namespace LoadRequest

def fields (es : Entries) : Verdict LoadRequest :=
  LoadRequest.mk
    <$> required es ["journey"] values
    <*> optional es ["profiles"] values
    <*> optional es ["seed"] integer
    <*> optional es ["environment"] values
    <*> withDefault es ["data_base_path"] "." text
    <*> withDefault es ["debug"] false boolean

def read (v : Value) : Verdict LoadRequest :=
  record "LoadRequest" v fields

def toValue (r : LoadRequest) : Value :=
  .object [
    ("journey", .dict r.journey),
    ("profiles", .ofOption .dict r.profiles),
    ("seed", .ofOption .int r.seed),
    ("environment", .ofOption .dict r.environment),
    ("data_base_path", .text r.dataFolder),
    ("debug", .bool r.debug)]

end LoadRequest

/-- The journey of a request to check one. -/
def checkRequest (es : Entries) : Verdict Entries :=
  required es ["journey"] values

end ApiJourney.Service
