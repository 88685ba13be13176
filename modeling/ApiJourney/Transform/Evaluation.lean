-- SUMMARY: Evaluation of transform expressions.
import ApiJourney.Transform.Function
import ApiJourney.Transform.Parser

/-!
# Evaluation

An expression is evaluated from left to right with `value` bound to the
extracted value. Arguments are evaluated before the function or the method is
looked up. `apply` reads, checks and evaluates a transform.
-/

namespace ApiJourney.Transform

open ApiJourney.Text

def lift (r : Except Fault α) : Except Error α :=
  r.mapError .failed

/-- The failure of an operation with a key. -/
def keyError (key : Value) : Fault → Error
  | .missingKey => .missing key.written?
  | f => .failed f

/-! ## Operators -/

/-- Refuses to repeat a sequence beyond the size limit. -/
def checkRepetition (seq count : Value) : Except Error Unit :=
  let length? := match seq with
    | .text s => some s.length
    | .list xs => some xs.length
    | .tuple xs => some xs.length
    | _ => none
  match length?, count.int? with
  | some n, some k => if (maxItems : Int) < n * max k 0 then .error .repetition else .ok ()
  | _, _ => .ok ()

/-- The text that a bare `%s` takes over as it is: a text, or that of a truth value. -/
def takenOver? (template : List Char) (args : Located) : Option Located :=
  let argument? := match args.value with
    | .tuple _ => single? args
    | _ => some args
  match template == ['%', 's'], argument? with
  | true, some l =>
    match l.value with
    | .text _ | .bool _ => (textOf l).toOption
    | _ => none
  | _, _ => none

/-- A template filled with its arguments, or the remainder of a division. -/
def remainder (a b : Located) : Except Error Located :=
  match a.value with
  | .text s => do
    checkTemplate s.toList
    let filled ← lift (fillTemplate .text s.toList b.value)
    .ok ((takenOver? s.toList b).getD (.fresh (textValue filled)))
  | .bytes bs =>
    lift ((fillTemplate .bytes (bs.map charOfByte) b.value).map fun cs =>
      .fresh (.bytes (cs.map fun c => UInt8.ofNat c.toNat)))
  | v => lift ((onNumbers modNumbers v b.value).map .fresh)

def applyBinary (op : BinaryOp) (a b : Located) : Except Error Located :=
  match op with
  | .add => lift (addValues a b)
  | .sub => lift ((onNumbers subNumbers a.value b.value).map .fresh)
  | .mul => do
    checkRepetition a.value b.value
    checkRepetition b.value a.value
    lift (mulValues a b)
  | .div => lift ((onNumbers divNumbers a.value b.value).map .fresh)
  | .floorDiv => lift ((onNumbers floorDivNumbers a.value b.value).map .fresh)
  | .mod => remainder a b
  | op => .error (.construct (op.refused?.getD ""))

/-- A number as it is; a truth value becomes an integer. -/
def keep (l : Located) : Except Fault Located :=
  match l.value, number? l.value with
  | .bool _, some n => .ok (.fresh n.value)
  | _, some _ => .ok l
  | _, none => .error .wrongType

def applyUnary (op : UnaryOp) (l : Located) : Except Error Located :=
  match op with
  | .neg => lift ((negate l.value).map .fresh)
  | .pos => lift (keep l)
  | .not => .ok (.fresh (.bool !l.value.truthy))
  | .invert => .error (.construct "Invert")

def compareValues (op : CompareOp) (a b : Located) : Except Fault Bool :=
  match op with
  | .eq => .ok (a.equal b)
  | .ne => .ok (!a.equal b)
  | .lt => a.ordered .lt b
  | .le => a.ordered .le b
  | .gt => a.ordered .gt b
  | .ge => a.ordered .ge b
  | .isIn => contains b a
  | .notIn => (contains b a).map (!·)
  | .is => .ok (a.isSame b)
  | .isNot => .ok (!a.isSame b)

/-! ## Expressions -/

/-- The value of a name; those of constants count also where they are no reserved words. -/
def nameValue (value : Value) (id : String) : Except Error Located :=
  match id with
  | "value" => .ok ⟨value, .part []⟩
  | "True" => .ok (.fresh (.bool true))
  | "False" => .ok (.fresh (.bool false))
  | "None" => .ok (.fresh .null)
  | id => .error (.unknownName id)

mutual

def eval (value : Value) : Expr → Except Error Located
  | .constant l => .ok (.fresh l.value)
  | .name id => nameValue value id
  | .binary op l r => do
    let a ← eval value l
    let b ← eval value r
    applyBinary op a b
  | .unary op e => do
    let l ← eval value e
    applyUnary op l
  | .all es => evalAll value (.fresh (.bool true)) es
  | .any es => evalAny value (.fresh (.bool false)) es
  | .compare e rest => do
    let l ← eval value e
    evalCompare value l rest
  | .ifElse test body orelse => do
    let t ← eval value test
    if t.value.truthy then eval value body else eval value orelse
  | .subscript target (.slice start stop step) => do
    let t ← eval value target
    let a ← evalOption value start
    let b ← evalOption value stop
    let c ← evalOption value step
    lift (cut t a.value b.value c.value)
  | .subscript target index => do
    let t ← eval value target
    let i ← eval value index
    (subscript t i).mapError (keyError i.value)
  | .slice _ _ _ => .error (.construct "Slice")
  | .call f args kws =>
    if kws.any fun (k, _) => k.isNone then .error .spreadArgument
    else do
      let ls ← evalList value args
      let ks ← evalKeywords value kws
      match f with
      | .name id => callFunction id ls ks
      | .attribute target name => do
        let t ← eval value target
        callMethod t name ls ks
      | _ => .error .uncallable
  | .attribute _ name => .error (.bareAttribute name)
  | .list es => (evalList value es).map .list
  | .tuple es => (evalList value es).map .tuple
  | .dict es =>
    if es.any fun (k, _) => k.isNone then .error .spreadObject
    else (evalEntries value [] es).map .dict
  | .starred _ => .error (.construct "Starred")
  | .foreign kind => .error (.construct kind)

def evalOption (value : Value) : Option Expr → Except Error Located
  | none => .ok (.fresh .null)
  | some e => eval value e

def evalList (value : Value) : List Expr → Except Error (List Located)
  | [] => .ok []
  | e :: rest => do
    let l ← eval value e
    let ls ← evalList value rest
    .ok (l :: ls)

/-- The first operand that does not hold, or the last one. -/
def evalAll (value : Value) (last : Located) : List Expr → Except Error Located
  | [] => .ok last
  | e :: rest => do
    let l ← eval value e
    if l.value.truthy then evalAll value l rest else .ok l

/-- The first operand that holds, or the last one. -/
def evalAny (value : Value) (last : Located) : List Expr → Except Error Located
  | [] => .ok last
  | e :: rest => do
    let l ← eval value e
    if l.value.truthy then .ok l else evalAny value l rest

def evalCompare (value : Value) (a : Located) : List (CompareOp × Expr) → Except Error Located
  | [] => .ok (.fresh (.bool true))
  | (op, e) :: rest => do
    let b ← eval value e
    let holds ← lift (compareValues op a b)
    if holds then evalCompare value b rest else .ok (.fresh (.bool false))

/-- Keyword arguments by name; a repeated name keeps its last value. -/
def evalKeywords (value : Value) :
    List (Option String × Expr) → Except Error (Keywords Located)
  | [] => .ok []
  | (k, e) :: rest => do
    let l ← eval value e
    let ks ← evalKeywords value rest
    let name := k.getD ""
    .ok (if (ks.lookup name).isSome then ks else (name, l) :: ks)

/-- Puts the entries into an object; their keys must be hashable. -/
def evalEntries (value : Value) (done : List (Located × Located)) :
    List (Option Expr × Expr) → Except Error (List (Located × Located))
  | [] => .ok done
  | (k, e) :: rest => do
    let key ← evalOption value k
    let l ← eval value e
    if key.value.hashable then evalEntries value (Located.insert key l done) rest
    else .error (.failed .wrongType)

end

/-! ## Depth -/

/-- The most nested steps that an evaluation may take. -/
def maxDepth : Nat := 988

mutual

/-- How many nested steps the evaluation of an expression takes. -/
def Expr.depth : Expr → Nat
  | .constant _ => 2
  | .name _ => 2
  | .binary _ l r => 2 + max l.depth r.depth
  | .unary _ e => 2 + e.depth
  | .all es => 2 + listDepth es
  | .any es => 2 + listDepth es
  | .compare e rest => 2 + max e.depth (comparedDepth rest)
  | .ifElse test body orelse => 2 + max test.depth (max body.depth orelse.depth)
  | .subscript e i => 2 + max e.depth i.depth
  | .slice a b c => 1 + max (optionDepth a) (max (optionDepth b) (optionDepth c))
  | .call f args kws => 2 + max (calledDepth f) (1 + max (listDepth args) (keywordDepth kws))
  | .attribute _ _ => 2
  | .list es => 3 + listDepth es
  | .tuple es => 3 + listDepth es
  | .dict es => 3 + entryDepth es
  | .starred _ => 2
  | .foreign _ => 2

def calledDepth : Expr → Nat
  | .attribute e _ => e.depth
  | _ => 0

def optionDepth : Option Expr → Nat
  | none => 0
  | some e => e.depth

def listDepth : List Expr → Nat
  | [] => 0
  | e :: rest => max e.depth (listDepth rest)

def comparedDepth : List (CompareOp × Expr) → Nat
  | [] => 0
  | (_, e) :: rest => max e.depth (comparedDepth rest)

def keywordDepth : List (Option String × Expr) → Nat
  | [] => 0
  | (_, e) :: rest => max e.depth (keywordDepth rest)

def entryDepth : List (Option Expr × Expr) → Nat
  | [] => 0
  | (k, e) :: rest => max (max (optionDepth k) e.depth) (entryDepth rest)

end

/-! ## Transforms -/

/-- Reads and checks a transform. A text that has no bytes and a null character are faults, not
    errors. -/
def compile (text : String) : Except Failure Expr :=
  let cs := trim text.toList
  if cs.isEmpty then .error (.error .empty)
  else if maxLength < text.length then .error (.error .tooLong)
  else if cs.any isHalf then .error (.fault .unencodable)
  else if cs.contains (Char.ofNat 0) then .error (.fault .badValue)
  else match parse? cs with
    | none => .error (.error .malformed)
    | some e =>
      match e.complaint? with
      | some c => .error (.error c)
      | none => .ok e

/-- A text without blanks at its ends, halves of pairs and null characters is what it is read as, if
    nothing in that is refused. -/
theorem compile_of_parse? {text : String} {e : Expr} (htrim : trim text.toList = text.toList)
    (hplain : (text.toList.isEmpty || text.toList.any isHalf ||
      text.toList.contains (Char.ofNat 0)) = false) (hshort : text.length ≤ maxLength)
    (hparse : parse? text.toList = some e) (hcomplaint : e.complaint? = none) :
    compile text = .ok e := by
  simp only [Bool.or_eq_false_iff] at hplain
  rw [compile, htrim, hparse]
  dsimp only
  rw [hplain.1.1, hplain.1.2, hplain.2, hcomplaint, if_neg (Nat.not_lt.2 hshort)]
  rfl

/-- The value that a transform computes from an extracted value. -/
def apply (value : Value) (text : String) : Except Failure Value := do
  let e ← compile text
  if maxDepth < e.depth then .error (.error (.failed .tooDeep))
  else ((eval value e).map (·.value)).mapError Error.reported

end ApiJourney.Transform
