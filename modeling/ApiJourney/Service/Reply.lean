-- SUMMARY: Replies of the decision service and the reasons to refuse a request.
import ApiJourney.Failure
import ApiJourney.Text.Utf8
import ApiJourney.Value.Display

/-!
# Replies

A reply has a status and a JSON document or a text. A refusal names its reason, from which
its status and its document are made. A document that cannot be sent makes the request
fail, as any other fault does.
-/

namespace ApiJourney

/-! ## Documents -/

mutual

/-- Whether a value can be sent as JSON: its numbers are finite and not too long, its texts
    can be written as bytes, and its keys are none of them collections. -/
def Value.isSendable : Value → Bool
  | .null => true
  | .bool _ => true
  | .int n => (intText? n).isSome
  | .float x =>
    match Binary64.reading x with
    | .finite _ _ => true
    | _ => false
  | .text s => Text.isEncodable s
  | .list xs => Value.areSendable xs
  | .tuple xs => Value.areSendable xs
  | .dict es => Value.entriesSendable es
  | _ => false

def Value.areSendable : List Value → Bool
  | [] => true
  | x :: rest => x.isSendable && Value.areSendable rest

def Value.entriesSendable : List (Value × Value) → Bool
  | [] => true
  | (.tuple _, _) :: _ => false
  | (k, v) :: rest => k.isSendable && v.isSendable && Value.entriesSendable rest

end

namespace Service

inductive Content where
  | document (v : Value)
  | text (s : String)

structure Reply where
  status : Nat
  content : Content

/-- The reply to a request that failed without a reason for the client. -/
def Reply.failed : Reply := ⟨500, .text "Internal Server Error"⟩

/-- A reply without its content. -/
def Reply.bare (r : Reply) : Reply :=
  { r with content := .text "" }

/-- A reply, unless its document cannot be sent. -/
def Reply.ofContent (status : Nat) (c : Content) : Reply :=
  match c with
  | .document v => if v.isSendable then ⟨status, .document v⟩ else .failed
  | .text s => ⟨status, .text s⟩

/-! ## Issues -/

def placeValue : Schema.Place → Value
  | .field name => .text name
  | .item n => .int n

def issueValue (i : Schema.Issue) : Value :=
  .object [
    ("loc", .list (i.place.map placeValue)),
    ("type", .text i.cause.kind),
    ("msg", .text i.cause.message)]

def issuesValue (is : List Schema.Issue) : Value :=
  .list (is.map issueValue)

def findingsValue (fs : List Finding) : Value :=
  .list (fs.map Finding.toValue)

/-! ## Refusals -/

inductive Refusal where
  | unknownPath
  | wrongMethod
  /-- The body of a request is not what it should be. -/
  | badBody (issues : List Schema.Issue)
  /-- What a request should have loaded is not what it should be. -/
  | badDocument (issues : List Schema.Issue)
  | dangling (findings : List Finding)
  | unusable (message : String)
  | noJourney
  | unknownUser (id : String)
  | unknownStep (id : String)
  /-- A step out of turn, with the one that is next. -/
  | notDue (step : String) (next : Option String)
  | fault (f : Fault)

namespace Refusal

def status : Refusal → Nat
  | unknownPath => 404
  | wrongMethod => 405
  | badBody _ => 422
  | badDocument _ => 400
  | dangling _ => 400
  | unusable _ => 400
  | noJourney => 409
  | unknownUser _ => 404
  | unknownStep _ => 404
  | notDue _ _ => 409
  | fault _ => 500

/-- What a refusal tells. -/
def detail : Refusal → Value
  | unknownPath => .text "Not Found"
  | wrongMethod => .text "Method Not Allowed"
  | badBody issues => issuesValue issues
  | badDocument issues => issuesValue issues
  | dangling findings =>
    .object [("message", .text (danglingMessage findings)), ("issues", findingsValue findings)]
  | unusable message => .text message
  | noJourney => .text "No journey loaded; POST /api/load first"
  | unknownUser id => .text s!"Unknown virtual user '{id}'"
  | unknownStep id => .text s!"Unknown step '{id}'"
  | notDue step next =>
    .object [
      ("message", .text s!"Step '{step}' should not execute now"),
      ("nextStepId", .ofOption .text next)]
  | fault _ => .null

def reply (r : Refusal) : Reply :=
  match r with
  | fault _ => .failed
  | r => .ofContent r.status (.document (.object [("detail", r.detail)]))

/-- The reason behind a failure to load something. -/
def ofFailure : Failure → Refusal
  | .invalid _ issues => .badDocument issues
  | .dangling findings => .dangling findings
  | .misconfigured m => .unusable m.message
  | .source p => .unusable p.message
  | .document p => .unusable p.message
  | .fault f => .fault f
  | .missingFile _ => .fault .missingKey
  | .missingFolder _ => .fault .missingKey

end Refusal

end Service

end ApiJourney
