-- SUMMARY: Extracting values from responses.
import ApiJourney.Extraction.Basic
import ApiJourney.Pattern.Matcher
import ApiJourney.Pattern.Parser
import ApiJourney.Query.Evaluation
import ApiJourney.Response.Content
import ApiJourney.Transform.Evaluation

/-!
# Extraction

Each kind of extraction finds a value in a response or fails with an error. A
default stands in for an error, which is reported beside it, and the transform
applies to whatever was found.
Errors are reported beside the variables that were bound; faults end the whole
extraction.
-/

namespace ApiJourney

/-- Why an extraction found nothing. -/
inductive ExtractionError where
  | emptyBody
  | notJson
  | badPath (path : String) (e : QueryError)
  | noMatch (path : String)
  | noHeader (name : String)
  | badRegex (pattern flaw : String)
  | noRegexMatch (pattern : String)
  | transform (e : Transform.Error)

def ExtractionError.message : ExtractionError → String
  | emptyBody => "Response body is empty"
  | notJson => "Response body is not valid JSON"
  | badPath p e => s!"Invalid JSONPath '{p}': {e.message}"
  | noMatch p => s!"JSONPath '{p}' matched nothing"
  | noHeader n => s!"Header '{n}' not found"
  | badRegex p flaw => s!"Invalid regex '{p}': {flaw}"
  | noRegexMatch p => s!"Regex '{p}' did not match"
  | transform e => s!"Transform failed: {e.message}"

inductive ExtractionFailure where
  | error (e : ExtractionError)
  | fault (f : Fault)

abbrev Extracts := Except ExtractionFailure Value

namespace Extraction

/-! ## Bodies -/

/-- A lone match stands for itself; several are a list. -/
def single? : List Value → Option Value
  | [] => none
  | [v] => some v
  | vs => some (.list vs)

/-- The matches of a path in the document that a body holds. -/
def fromPath (body : Value) (path : String) : Extracts :=
  if body.isNull then .error (.error .emptyBody)
  else match Body.document body with
    | .error f => if f.isValue then .error (.error .notJson) else .error (.fault f)
    | .ok document =>
      match Query.evaluate path document with
      | .error (.error e) => .error (.error (.badPath path e))
      | .error (.fault f) => .error (.fault f)
      | .ok found =>
        match single? found with
        | some v => .ok v
        | none => .error (.error (.noMatch path))

def fromHeader (headers : Entries) (name : String) : Extracts :=
  match Headers.lookup headers name with
  | .null => .error (.error (.noHeader name))
  | v => .ok v

/-! ## Regular expressions -/

/-- Digits at the end of a text, before a last line break. -/
def groupDigits? (cs : List Char) : Option (List Char) :=
  let ds := if cs.getLast? == some '\n' then cs.dropLast else cs
  if ds.isEmpty || !ds.all Text.isDecimal then none else some ds

/-- An expression and the digits of the group behind its last bar, if that is all that
    stands there. -/
def splitGroup (cs : List Char) : List Char × Option (List Char) :=
  let tail := (cs.reverse.takeWhile (· != '|')).reverse
  if tail.length < cs.length then
    match groupDigits? tail with
    | some ds => (cs.take (cs.length - tail.length - 1), some ds)
    | none => (cs, none)
  else (cs, none)

/-- The number of the group that a path asks for; 0 is the whole match. -/
def groupNumber (digits : Option (List Char)) : Except Fault Nat :=
  match digits with
  | none => .ok 0
  | some ds =>
    match Numeral.integer? 10 ds with
    | some n => .ok n.toNat
    | none => .error .badValue

/-- The text of a group; of the whole match, when the group took no part. -/
def groupText (m : Pattern.Match) (text : Array Char) (group : Nat) : Value :=
  let whole := (m.group? text 0).getD []
  .text (String.ofList ((m.group? text group).getD whole))

def fromRegex (body : Value) (path : String) : Extracts := do
  let (expression, digits) := splitGroup path.toList
  let pattern := String.ofList expression
  let group ← (groupNumber digits).mapError .fault
  match Pattern.parse expression with
  | .error (.invalid flaw) => .error (.error (.badRegex pattern (flaw.text expression)))
  | .error (.fault f) => .error (.fault f)
  | .ok p =>
    let text ← (Body.text body).mapError .fault
    let chars := text.toList.toArray
    match p.search chars with
    | none => .error (.error (.noRegexMatch pattern))
    | some m => .ok (groupText m chars group)

/-! ## Extractions -/

def transformed (value : Value) (expression : String) : Extracts :=
  match Transform.apply value expression with
  | .ok v => .ok v
  | .error (.error e) => .error (.error (.transform e))
  | .error (.fault f) => .error (.fault f)

/-- What an extraction finds, before its default and its transform. -/
def lookup (e : Extraction) (r : Response) : Extracts :=
  match e.kind with
  | .jsonPath => fromPath r.body e.path
  | .header => fromHeader r.headers e.path
  | .regex => fromRegex r.body e.path
  | .status => .ok (.int r.status)

/-- The default in place of an error. A default without a written form cannot be reported, which
    is a fault. -/
def orDefault (e : Extraction) (found : Extracts) : Extracts :=
  match found, e.default with
  | .error (.error _), some v =>
    if v.written?.isNone then .error (.fault .badValue) else .ok v
  | found, _ => found

/-- The value that an extraction gives. -/
def run (e : Extraction) (r : Response) : Extracts := do
  let v ← e.orDefault (e.lookup r)
  match e.transform.filter (fun t => !t.isEmpty) with
  | some t => transformed v t
  | none => .ok v

/-- Errors are results; faults are not. -/
def resultOf : Extracts → Except Fault ExtractionResult
  | .ok v => .ok (.found v)
  | .error (.error e) => .ok (.failed e.message)
  | .error (.fault f) => .error f

/-- All extractions in order. A value without a written form cannot be reported, which
    is a fault. -/
def runAll (r : Response) : List Extraction → Except Fault Extracted
  | [] => .ok .none
  | es => es.foldlM (fun acc e => step acc e) .none
where
  step (acc : Extracted) (e : Extraction) : Except Fault Extracted :=
    match e.run r with
    | .ok v =>
      if v.written?.isNone then .error .badValue
      else .ok { acc with bindings := Entries.put acc.bindings e.bound v }
    | .error (.error x) =>
      .ok { acc with errors := acc.errors ++ [s!"Failed to extract '{e.bound}': {x.message}"] }
    | .error (.fault f) => .error f

end Extraction

end ApiJourney
