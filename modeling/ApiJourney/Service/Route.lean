-- SUMMARY: The routes of the decision service, and the frameworks that find them.
import ApiJourney.Number.Numeral
import ApiJourney.Service.Reply
import ApiJourney.Text.Search
import ApiJourney.Text.Utf8

/-!
# Routes

A route is what a path asks for; each path takes one method. A framework takes requests and
either calls the handler of a route or replies by itself, as it does where there is no such
path. A small framework is added: it reads the escapes of bytes in a path, and where a slash at
the end is too many or too few it tells the way.
-/

namespace ApiJourney.Service

open ApiJourney.Text

inductive Route where
  | health
  | load
  | validate
  | paths
  | createUser
  | stepRequest (user step : String)
  | stepResponse (user step : String)
  | deleteUser (user : String)
  | stats
  | metrics
  /-- The metrics as lines of text. -/
  | metricLines
  deriving DecidableEq

namespace Route

def verb : Route → String
  | load => "POST"
  | validate => "POST"
  | createUser => "POST"
  | stepResponse _ _ => "POST"
  | deleteUser _ => "DELETE"
  | _ => "GET"

/-- The route of the segments of a path. -/
def ofSegments : List String → Option Route
  | ["api", "health"] => some .health
  | ["api", "load"] => some .load
  | ["api", "journey", "validate"] => some .validate
  | ["api", "journey", "paths"] => some .paths
  | ["api", "users"] => some .createUser
  | ["api", "users", user] => if user.isEmpty then none else some (.deleteUser user)
  | ["api", "users", user, "steps", step, "request"] =>
    if user.isEmpty || step.isEmpty then none else some (.stepRequest user step)
  | ["api", "users", user, "steps", step, "response"] =>
    if user.isEmpty || step.isEmpty then none else some (.stepResponse user step)
  | ["api", "stats"] => some .stats
  | ["api", "metrics"] => some .metrics
  | ["metrics"] => some .metricLines
  | _ => none

end Route

/-! ## Paths -/

/-- The bytes of a text with its escapes. -/
def unescaped : List Char → List UInt8
  | '%' :: a :: b :: rest =>
    match Numeral.digitValue? 16 a, Numeral.digitValue? 16 b with
    | some x, some y => UInt8.ofNat (x * 16 + y) :: unescaped rest
    | _, _ => Utf8.encode "%" ++ unescaped (a :: b :: rest)
  | c :: rest => Utf8.encode (String.ofList [c]) ++ unescaped rest
  | [] => []

/-- The path of a target, without its query. -/
def pathOf (target : String) : List Char :=
  Utf8.decodeLossy (unescaped (target.toList.takeWhile fun c => c != '?' && c != '#'))

/-- The route of a path. -/
def Route.ofPath (path : List Char) : Option Route :=
  match split ['/'] none path with
  | [] :: rest => Route.ofSegments (rest.map String.ofList)
  | _ => none

/-! ## Frameworks -/

/-- What a framework makes of a request: it calls the handler of a route with the document that
    was sent, or replies by itself. -/
inductive Dispatch where
  | call (route : Route) (body : Option Value)
  | own (reply : Reply)

structure Framework where
  Request : Type
  dispatch : Request → Dispatch

namespace Framework

structure PlainRequest where
  method : String
  target : String
  /-- The document that was sent. -/
  body : Option Value

/-- The reply of the framework itself; only the status is sent where no content is asked for. -/
def PlainRequest.refuse (r : PlainRequest) (reply : Reply) : Dispatch :=
  .own (if r.method == "HEAD" then reply.bare else reply)

/-- A path with a slash at the end, or without the one that it had. -/
def otherPath (path : List Char) : List Char :=
  if path.getLast? == some '/' then dropEndWhile (· == '/') path else path ++ ['/']

/-- Where a path leads nowhere because of its last slash, the way is told. -/
def PlainRequest.dispatch (r : PlainRequest) : Dispatch :=
  let path := pathOf r.target
  match Route.ofPath path with
  | some route =>
    if route.verb == r.method then .call route r.body else r.refuse Refusal.wrongMethod.reply
  | none =>
    if (Route.ofPath (otherPath path)).isSome then .own ⟨307, .text ""⟩
    else r.refuse Refusal.unknownPath.reply

/-- The small framework. -/
def plain : Framework := ⟨PlainRequest, PlainRequest.dispatch⟩

end Framework

end ApiJourney.Service
