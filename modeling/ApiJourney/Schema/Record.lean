-- SUMMARY: Reading records, lists and dictionaries from documents.
import ApiJourney.Schema.Scalar
import ApiJourney.Value.Display

/-!
# Records

A record is read from an object: each of its fields has one or more names in
the document, of which the first that is there counts. Fields that a record
does not know are left out.
-/

namespace ApiJourney.Schema

/-! ## Fields -/

/-- The first of several names that an object has, and the value there. -/
def lookup? (es : Entries) : List String → Option (String × Value)
  | [] => none
  | k :: rest =>
    match Entries.get? es k with
    | some v => some (k, v)
    | none => lookup? es rest

def has (es : Entries) (names : List String) : Bool :=
  (lookup? es names).isSome

/-- A field that must be there. -/
def required (es : Entries) (names : List String) (read : Value → Verdict α) : Verdict α :=
  match lookup? es names with
  | some (k, v) => (read v).under (.field k)
  | none => .refused [⟨[.field (names.headD "")], .missing⟩]

/-- A field with a default. -/
def withDefault (es : Entries) (names : List String) (default : α) (read : Value → Verdict α) : Verdict α :=
  match lookup? es names with
  | some (k, v) => (read v).under (.field k)
  | none => .accepted default

/-- A value that may be null. -/
def nullable (read : Value → Verdict α) (v : Value) : Verdict (Option α) :=
  if v.isNull then .accepted none else some <$> read v

/-- A field that may be null, and is so when it is not there. -/
def optional (es : Entries) (names : List String) (read : Value → Verdict α) : Verdict (Option α) :=
  withDefault es names none (nullable read)

def anything (v : Value) : Verdict Value := .accepted v

/-! ## Containers -/

/-- The fields of a record of the given name. -/
def record (name : String) (v : Value) (read : Entries → Verdict α) : Verdict α :=
  match v with
  | .dict es => read es
  | _ => .refuse (.notRecord name)

def list (read : Value → Verdict α) : Value → Verdict (List α)
  | .list xs => Verdict.each read 0 xs
  | .tuple xs => Verdict.each read 0 xs
  | _ => .refuse .notList

def nonEmptyList (read : Value → Verdict α) (v : Value) : Verdict (List α) :=
  (list read v).andThen fun xs => if xs.isEmpty then .refuse .shortList else .accepted xs

/-- The place that a key names. -/
def placeOf (key : Value) : Place :=
  match key with
  | .text s => .field s
  | .int n => .item n
  | .bool b => .item (if b then 1 else 0)
  | v => .field ((v.written?).getD "")

/-- The entries of a dictionary; each key must be a text. -/
def entries (read : Value → Verdict α) : Entries → Verdict (List (String × α))
  | [] => .accepted []
  | (k, v) :: rest =>
    let key := ((text k).under (.field "[key]")).under (placeOf k)
    let value := (read v).under (placeOf k)
    List.cons <$> (Prod.mk <$> key <*> value) <*> entries read rest

/-- Of several entries with one key the last value, at the place of the first. -/
def lastOfEach (es : List (String × α)) : List (String × α) :=
  let latest := es.reverse
  (es.map Prod.fst).eraseDups.filterMap fun k => (latest.lookup k).map fun a => (k, a)

def dictionary (read : Value → Verdict α) : Value → Verdict (List (String × α))
  | .dict es => lastOfEach <$> entries read es
  | _ => .refuse .notDictionary

/-- A dictionary of values of any kind. -/
def values (v : Value) : Verdict Entries :=
  (dictionary anything v).map fun es => es.map fun (k, v) => (.text k, v)

def texts (v : Value) : Verdict (List (String × String)) :=
  dictionary text v

/-! ## Alternatives -/

/-- The first of two readings that accepts; else the issues of both, under their labels. -/
def either (first second : String × (Value → Verdict α)) (v : Value) : Verdict α :=
  match first.2 v with
  | .accepted a => .accepted a
  | .refused is =>
    match second.2 v with
    | .accepted a => .accepted a
    | .refused js =>
      .refused ((is ++ js).zipIdx.map fun (i, n) =>
        { i with place := .field (if n < is.length then first.1 else second.1) :: i.place })

/-- An integer or a double, written as one. -/
def strictNumber : Value → Verdict Value :=
  either
    ("int", fun v => Value.int <$> strictInteger v)
    ("float", fun v => match v with
      | .float x => .accepted (.float x)
      | .int n => Value.float <$> numberOfInt n
      | _ => .refuse .notNumber)

/-- A record whose kind stands under `key`. -/
def tagged (key : String) (options : List (String × (Value → Verdict α))) (v : Value) : Verdict α :=
  match v with
  | .dict es =>
    match Entries.get? es key with
    | none => .refuse (.tagMissing key)
    | some tag =>
      match (tag.text?).bind fun t => (options.lookup t).map fun read => (t, read) with
      | some (t, read) => (read v).under (.field t)
      | none => .refuse (.tagUnknown key ((tag.shown?).getD "") (options.map Prod.fst))
  | _ => .refuse .notTagged

end ApiJourney.Schema
