-- SUMMARY: The methods that transforms may call on texts, lists and objects.
import ApiJourney.Text.Case
import ApiJourney.Text.Digit
import ApiJourney.Text.Search
import ApiJourney.Transform.Expression
import ApiJourney.Transform.Sequence

/-!
# Methods

Texts, lists and objects have a fixed set of methods each. Calls whose result
would be too large are refused before they are made where the size can be told
from the arguments.
-/

namespace ApiJourney.Transform

open ApiJourney.Text

/-- Arguments by name. -/
abbrev Keywords (α : Type) := List (String × α)

def textMethods : List String :=
  ["lower", "upper", "strip", "lstrip", "rstrip", "split", "rsplit", "replace",
   "startswith", "endswith", "title", "capitalize", "join", "find", "count",
   "zfill", "isdigit", "isalpha", "isalnum"]

def listMethods : List String := ["index", "count"]
def dictMethods : List String := ["get", "keys", "values", "items"]

def methodsOf : Value → List String
  | .text _ => textMethods
  | .list _ => listMethods
  | .dict _ => dictMethods
  | _ => []

/-! ## Arguments -/

def textArg : Value → Except Fault (List Char)
  | .text s => .ok s.toList
  | _ => .error .wrongType

/-- An integer that is a size. -/
def sizeArg (v : Value) : Except Fault Int :=
  match v.int? with
  | some n => if isSize n then .ok n else .error .overflow
  | none => .error .wrongType

/-- A limit on a number of occurrences; a negative one is none. -/
def limitArg (v : Value) : Except Fault (Option Nat) :=
  (sizeArg v).map fun n => if n < 0 then none else some n.toNat

def noArgs (args : List Value) (r : Value) : Except Fault Value :=
  if args.isEmpty then .ok r else .error .wrongType

/-- Up to two bounds. -/
def boundsArg : List Value → Except Fault (Option Int × Option Int)
  | [] => .ok (none, none)
  | [a] => do
    let a ← bound? a
    .ok (a, none)
  | [a, b] => do
    let a ← bound? a
    let b ← bound? b
    .ok (a, b)
  | _ => .error .wrongType

def textValue (cs : List Char) : Value := .text (String.ofList cs)

/-! ## Texts -/

/-- Trims blanks, or the characters of an argument. -/
def stripped (trimBlank : List Char → List Char) (trimBy : (Char → Bool) → List Char → List Char)
    (cs : List Char) : List Value → Except Fault Value
  | [] => .ok (textValue (trimBlank cs))
  | [.null] => .ok (textValue (trimBlank cs))
  | [.text chars] => .ok (textValue (trimBy (chars.toList.contains ·) cs))
  | _ => .error .wrongType

/-- The separator and the limit of a split, given by position or by name. -/
def splitArgs (args : List Value) (kws : Keywords Value) :
    Except Fault (Value × Value) :=
  let positional := match args with
    | [] => some (none, none)
    | [a] => some (some a, none)
    | [a, b] => some (some a, some b)
    | _ => none
  match positional with
  | none => .error .wrongType
  | some (sep, limit) =>
    let known := kws.all fun (k, _) => k == "sep" || k == "maxsplit"
    let twice := (sep.isSome && (kws.lookup "sep").isSome) || (limit.isSome && (kws.lookup "maxsplit").isSome)
    if !known || twice then .error .wrongType
    else .ok ((sep.orElse fun _ => kws.lookup "sep").getD .null,
      (limit.orElse fun _ => kws.lookup "maxsplit").getD (.int (-1)))

def splitText (byWords : Option Nat → List Char → List (List Char))
    (bySep : List Char → Option Nat → List Char → List (List Char))
    (cs : List Char) (args : List Value) (kws : Keywords Value) : Except Fault Value := do
  let (sep, limit) ← splitArgs args kws
  let limit ← limitArg limit
  match sep with
  | .null => .ok (.list ((byWords limit cs).map textValue))
  | .text s =>
    if s.isEmpty then .error .badValue
    else .ok (.list ((bySep s.toList limit cs).map textValue))
  | _ => .error .wrongType

def replaceText (cs : List Char) : List Value → Except Fault Value
  | [old, new] => do
    let old ← textArg old
    let new ← textArg new
    .ok (textValue (replace old new none cs))
  | [old, new, limit] => do
    let old ← textArg old
    let new ← textArg new
    let limit ← limitArg limit
    .ok (textValue (replace old new limit cs))
  | _ => .error .wrongType

/-- Whether one of the pieces stands at an end of the window. -/
def anyAtEnd (test : List Char → List Char → Bool) (window : Option (List Char)) :
    List Value → Except Fault Bool
  | [] => .ok false
  | .text piece :: rest =>
    if (window.map (test piece.toList)).getD false then .ok true else anyAtEnd test window rest
  | _ => .error .wrongType

def endTest (test : List Char → List Char → Bool) (cs : List Char) :
    List Value → Except Fault Value
  | [] => .error .wrongType
  | piece :: bounds => do
    let (start, stop) ← boundsArg bounds
    let window := (window? cs start stop).map Prod.snd
    match piece with
    | .text t => .ok (.bool ((window.map (test t.toList)).getD false))
    | .tuple ts => (anyAtEnd test window ts).map .bool
    | _ => .error .wrongType

def joinTexts (sep : List Char) (items : List Value) : Except Fault Value := do
  let parts ← items.mapM textArg
  .ok (textValue (sep.intercalate parts))

def joinText (sep : List Char) : List Value → Except Fault Value
  | [items] => do
    let items ← items.iterate
    joinTexts sep items
  | _ => .error .wrongType

def searchText (search : List Char → Option (Nat × List Char) → Int) (cs : List Char) :
    List Value → Except Fault Value
  | [] => .error .wrongType
  | piece :: bounds => do
    let piece ← textArg piece
    let (start, stop) ← boundsArg bounds
    .ok (.int (search piece (window? cs start stop)))

/-- The position of the first occurrence in a window, -1 without one. -/
def findIn (piece : List Char) (window : Option (Nat × List Char)) : Int :=
  match window with
  | some (first, cs) =>
    match find? piece cs with
    | some i => (first + i : Nat)
    | none => -1
  | none => -1

def countIn (piece : List Char) (window : Option (Nat × List Char)) : Int :=
  match window with
  | some (_, cs) => count piece cs
  | none => 0

def zeroFilled (cs : List Char) : List Value → Except Fault Value
  | [width] => (sizeArg width).map fun n => textValue (zeroFill n.toNat cs)
  | _ => .error .wrongType

def allOf (test : Char → Bool) (cs : List Char) : Value :=
  .bool (!cs.isEmpty && cs.all test)

def textMethod (cs : List Char) (name : String) (args : List Value) (kws : Keywords Value) :
    Except Fault Value :=
  if name == "split" then splitText words split cs args kws
  else if name == "rsplit" then splitText wordsRight splitRight cs args kws
  else if !kws.isEmpty then .error .wrongType
  else if name == "lower" then noArgs args (textValue (lower cs))
  else if name == "upper" then noArgs args (textValue (upper cs))
  else if name == "title" then noArgs args (textValue (title cs))
  else if name == "capitalize" then noArgs args (textValue (capitalize cs))
  else if name == "strip" then stripped trim (fun p cs => dropEndWhile p (cs.dropWhile p)) cs args
  else if name == "lstrip" then stripped trimStart List.dropWhile cs args
  else if name == "rstrip" then stripped trimEnd dropEndWhile cs args
  else if name == "replace" then replaceText cs args
  else if name == "startswith" then endTest List.isPrefixOf cs args
  else if name == "endswith" then endTest isSuffixOf cs args
  else if name == "join" then joinText cs args
  else if name == "find" then searchText findIn cs args
  else if name == "count" then searchText countIn cs args
  else if name == "zfill" then zeroFilled cs args
  else if name == "isdigit" then noArgs args (allOf isDigit cs)
  else if name == "isalpha" then noArgs args (allOf isLetter cs)
  else if name == "isalnum" then noArgs args (allOf isAlphanumeric cs)
  else .error .noAttribute

/-! ## Sizes -/

/-- How many occurrences a replacement replaces. -/
def replacements (cs old : List Char) (limit : Option Value) : Nat :=
  match limit.bind Value.int? with
  | some n => if 0 ≤ n then min (count old cs) n.toNat else count old cs
  | none => count old cs

/-- The length of a text after a replacement. -/
def replacedLength (cs old new : List Char) (limit : Option Value) : Int :=
  cs.length + replacements cs old limit * ((new.length : Int) - old.length)

/-- Refuses calls whose result would be too large. -/
def checkArgs (target : Value) (name : String) (args : List Value) : Except Error Unit :=
  match target, args with
  | .text s, first :: rest =>
    if name == "zfill" then
      match first.int? with
      | some n => if (maxItems : Int) < n then .error .fillWidth else .ok ()
      | none => .ok ()
    else if name == "replace" then
      match first, rest with
      | .text old, .text new :: more =>
        if (maxItems : Int) < replacedLength s.toList old.toList new.toList more.head? then
          .error .replacement
        else .ok ()
      | _, _ => .ok ()
    else .ok ()
  | _, _ => .ok ()

/-! ## Origins -/

/-- Whether a text is replaced by itself, or nothing is replaced. -/
def isIdle (cs : List Char) (args : List Located) : Bool :=
  match args with
  | old :: new :: more =>
    old.isSame new
      || (match old.value with
        | .text t => replacements cs t.toList (more.head?.map (·.value)) = 0
        | _ => false)
  | _ => false

/-- Whether a split looks for blanks, but for none of them. -/
def isBlind (args : List Located) (kws : Keywords Located) : Bool :=
  match splitArgs (args.map (·.value)) (kws.map fun (k, l) => (k, l.value)) with
  | .ok (sep, limit) => sep.isNull && limit.int? == some 0
  | .error _ => false

/-- The only item of a value. -/
def single? (l : Located) : Option Located :=
  match l.iterate with
  | .ok [item] => some item
  | _ => none

/-- The result of a text method, known again where it is a text that was there before. -/
def placeText (target : Located) (cs : List Char) (name : String) (args : List Located)
    (kws : Keywords Located) (result : Value) : Located :=
  let whole (v : Value) : Bool := v.sameAtom target.value
  if ["strip", "lstrip", "rstrip"].contains name then
    if whole result then target else .fresh result
  else if name == "replace" then if isIdle cs args && whole result then target else .written result
  else if name == "zfill" then if whole result then target else .written result
  else if name == "join" then ((args.head?.bind single?).getD (.written result))
  else if ["lower", "upper", "title", "capitalize"].contains name then .written result
  else if name == "split" || name == "rsplit" then
    match result with
    | .list [piece] => if whole piece && !isBlind args kws then .list [target] else .fresh result
    | _ => .fresh result
  else .fresh result

/-! ## Lists and objects -/

/-- The position of the first equal item of a window. -/
def positionOf (xs : List Located) (l : Located) (start stop : Int) : Except Fault Value :=
  match window? xs (some start) (some stop) with
  | none => .error .badValue
  | some (first, ys) =>
    match ys.findIdx? (·.isFound l) with
    | some i => .ok (.int (first + i : Nat))
    | none => .error .badValue

/-- A bound that must be an integer. -/
def strictBound (v : Value) : Except Fault Int :=
  match v.int? with
  | some n => .ok n
  | none => .error .wrongType

def listMethod (xs : List Located) (name : String) (args : List Located) : Except Fault Value :=
  match name == "index", args with
  | true, [l] => positionOf xs l 0 xs.length
  | true, [l, start] => do
    let start ← strictBound start.value
    positionOf xs l start xs.length
  | true, [l, start, stop] => do
    let start ← strictBound start.value
    let stop ← strictBound stop.value
    positionOf xs l start stop
  | false, [l] => .ok (.int (xs.countP (·.isFound l)))
  | _, _ => .error .wrongType

def getEntry (es : List (Located × Located)) (key default : Located) : Except Fault Located :=
  if key.value.hashable then .ok ((Located.find? es key).getD default) else .error .wrongType

def dictMethod (es : List (Located × Located)) (name : String) (args : List Located) :
    Except Fault Located :=
  if name == "get" then
    match args with
    | [key] => getEntry es key (.fresh .null)
    | [key, default] => getEntry es key default
    | _ => .error .wrongType
  else if !args.isEmpty then .error .wrongType
  else if name == "keys" then .ok (.list (es.map Prod.fst))
  else if name == "values" then .ok (.list (es.map Prod.snd))
  else .ok (.list (es.map fun (k, v) => .tuple [k, v]))

/-! ## Calls -/

def resultSize : Value → Nat
  | .text s => s.length
  | .list xs => xs.length
  | _ => 0

/-- The result of a method that the target has. -/
def methodResult (target : Located) (name : String) (args : List Located)
    (kws : Keywords Located) : Except Fault Located :=
  match target.value with
  | .text s =>
    (textMethod s.toList name (args.map (·.value)) (kws.map fun (k, l) => (k, l.value))).map
      (placeText target s.toList name args kws)
  | .list xs =>
    if kws.isEmpty then (listMethod (Located.partsOf target.origin xs) name args).map .fresh
    else .error .wrongType
  | .dict es =>
    if kws.isEmpty then dictMethod (Located.entriesOf target.origin es) name args
    else .error .wrongType
  | _ => .error .noAttribute

/-- A method call on evaluated operands. -/
def callMethod (target : Located) (name : String) (args : List Located) (kws : Keywords Located) :
    Except Error Located := do
  if !(methodsOf target.value).contains name then
    .error (.method name target.value.typeName)
  else
    checkArgs target.value name (args.map (·.value))
    let result ← (methodResult target name args kws).mapError .failed
    if maxItems < resultSize result.value then .error (.largeResult name) else .ok result

end ApiJourney.Transform
