-- SUMMARY: Transform expressions, their constructs outside of the language, and transform errors.
import ApiJourney.Fault
import ApiJourney.Value.Basic

/-!
# Transform expressions

A transform computes a new value from an extracted one. Expressions are parsed
in a larger grammar than the one that may be evaluated: a construct that the
grammar knows and the language refuses is kept as `foreign` with its name.
-/

namespace ApiJourney.Transform

/-- A value that is written as such. It holds no others. -/
inductive Literal where
  | null
  | bool (b : Bool)
  | int (n : Int)
  | float (x : Float)
  | complex (re im : Float)
  | text (s : String)
  | bytes (bs : List UInt8)
  | ellipsis

def Literal.value : Literal → Value
  | null => .null
  | bool b => .bool b
  | int n => .int n
  | float x => .float x
  | complex re im => .complex re im
  | text s => .text s
  | bytes bs => .bytes bs
  | ellipsis => .ellipsis

inductive BinaryOp where
  | add | sub | mul | div | floorDiv | mod
  | pow | matMul | shiftLeft | shiftRight | bitOr | bitXor | bitAnd
  deriving DecidableEq

inductive UnaryOp where
  | neg | pos | not | invert
  deriving DecidableEq

inductive CompareOp where
  | eq | ne | lt | le | gt | ge | isIn | notIn | is | isNot
  deriving DecidableEq

inductive Expr where
  | constant (l : Literal)
  | name (id : String)
  | binary (op : BinaryOp) (left right : Expr)
  | unary (op : UnaryOp) (operand : Expr)
  | all (operands : List Expr)
  | any (operands : List Expr)
  /-- A chain of comparisons. -/
  | compare (first : Expr) (rest : List (CompareOp × Expr))
  | ifElse (test body orelse : Expr)
  | subscript (target index : Expr)
  | slice (start stop step : Option Expr)
  /-- A call; a keyword argument without a name spreads an object. -/
  | call (function : Expr) (args : List Expr) (keywords : List (Option String × Expr))
  | attribute (target : Expr) (name : String)
  | list (items : List Expr)
  | tuple (items : List Expr)
  /-- An object; an entry without a key spreads another object. -/
  | dict (entries : List (Option Expr × Expr))
  | starred (e : Expr)
  | foreign (kind : String)

/-- The name under which an operator outside of the language is refused. -/
def BinaryOp.refused? : BinaryOp → Option String
  | .add | .sub | .mul | .div | .floorDiv | .mod => none
  | .pow => some "Pow"
  | .matMul => some "MatMult"
  | .shiftLeft => some "LShift"
  | .shiftRight => some "RShift"
  | .bitOr => some "BitOr"
  | .bitXor => some "BitXor"
  | .bitAnd => some "BitAnd"

def UnaryOp.refused? : UnaryOp → Option String
  | .neg | .pos | .not => none
  | .invert => some "Invert"

/-! ## Errors -/

/-- Why a transform has no value. -/
inductive Error where
  | empty
  | tooLong
  | malformed
  | construct (kind : String)
  | privateName (id : String)
  | unknownName (id : String)
  | starWidth
  | formatWidth
  | fillWidth
  | replacement
  | repetition
  | spreadObject
  | spreadArgument
  | bareAttribute (name : String)
  | function (name : String)
  | method (name type : String)
  | largeResult (name : String)
  | uncallable
  /-- A key that is not in an object, by its written form if it has one. -/
  | missing (key : Option String)
  /-- An operation failed while the expression was evaluated. -/
  | failed (f : Fault)
  deriving DecidableEq

def maxLength : Nat := 500

/-- The most characters or items that one operation may build. -/
def maxItems : Nat := 100000

def Error.message : Error → String
  | empty => "Transform expression is empty"
  | tooLong => s!"Transform expression longer than {maxLength} characters"
  | malformed => "Invalid transform syntax"
  | construct kind => s!"Expression element '{kind}' is not allowed"
  | privateName id => s!"Access to '{id}' is not allowed"
  | unknownName id => s!"Unknown name '{id}' (only 'value' is available)"
  | starWidth => "Star width or precision is not allowed in '%' formatting"
  | formatWidth => "Format width too large"
  | fillWidth => "zfill width too large"
  | replacement => "Replace result too large"
  | repetition => "Repetition result too large"
  | spreadObject => "Dictionary unpacking is not allowed"
  | spreadArgument => "Argument unpacking is not allowed"
  | bareAttribute name => s!"Attribute access '.{name}' is only allowed as a method call"
  | function name => s!"Function '{name}' is not allowed"
  | method name type => s!"Method '{name}' is not allowed on {type}"
  | largeResult name => s!"Result of '{name}' too large"
  | uncallable => "Only named functions and methods may be called"
  | missing _ => Fault.missingKey.name
  | failed f => f.name

/-- An error of the transform, or a failure that is none of its errors. -/
inductive Failure where
  | error (e : Error)
  | fault (f : Fault)
  deriving DecidableEq

/-- What an error is reported as. The report names a missing key, so that has to be written. -/
def Error.reported : Error → Failure
  | missing none => .fault .badValue
  | e => .error e

/-! ## Check -/

/-- Two lists of levels, level by level. -/
def mergeLevels : List (List α) → List (List α) → List (List α)
  | [], ys => ys
  | xs, [] => xs
  | x :: xs, y :: ys => (x ++ y) :: mergeLevels xs ys

def privateComplaint (id : String) : List Error :=
  if id.startsWith "_" then [.privateName id] else []

def refusal (kind : Option String) : List Error :=
  match kind with
  | some k => [.construct k]
  | none => []

mutual

/-- The complaints about an expression, by depth and from left to right. -/
def Expr.complaints : Expr → List (List Error)
  | .constant _ => []
  | .name id => [privateComplaint id]
  | .binary op l r =>
    [] :: mergeLevels (mergeLevels l.complaints [refusal op.refused?]) r.complaints
  | .unary op e => [] :: mergeLevels [refusal op.refused?] e.complaints
  | .all es => [] :: allComplaints es
  | .any es => [] :: allComplaints es
  | .compare e rest => [] :: mergeLevels e.complaints (comparedComplaints rest)
  | .ifElse test body orelse =>
    [] :: mergeLevels test.complaints (mergeLevels body.complaints orelse.complaints)
  | .subscript e i => [] :: mergeLevels e.complaints i.complaints
  | .slice a b c =>
    [] :: mergeLevels (optionalComplaints a) (mergeLevels (optionalComplaints b) (optionalComplaints c))
  | .call f args kws =>
    [] :: mergeLevels f.complaints (mergeLevels (allComplaints args) (keywordComplaints kws))
  | .attribute e name => privateComplaint name :: e.complaints
  | .list es => [] :: allComplaints es
  | .tuple es => [] :: allComplaints es
  | .dict es => [] :: mergeLevels (keyComplaints es) (entryComplaints es)
  | .starred e => [.construct "Starred"] :: e.complaints
  | .foreign kind => [[.construct kind]]

def optionalComplaints : Option Expr → List (List Error)
  | none => []
  | some e => e.complaints

def allComplaints : List Expr → List (List Error)
  | [] => []
  | e :: rest => mergeLevels e.complaints (allComplaints rest)

def comparedComplaints : List (CompareOp × Expr) → List (List Error)
  | [] => []
  | (_, e) :: rest => mergeLevels e.complaints (comparedComplaints rest)

/-- A keyword is a level of its own above its value. -/
def keywordComplaints : List (Option String × Expr) → List (List Error)
  | [] => []
  | (_, e) :: rest => mergeLevels ([] :: e.complaints) (keywordComplaints rest)

def keyComplaints : List (Option Expr × Expr) → List (List Error)
  | [] => []
  | (k, _) :: rest => mergeLevels (optionalComplaints k) (keyComplaints rest)

def entryComplaints : List (Option Expr × Expr) → List (List Error)
  | [] => []
  | (_, e) :: rest => mergeLevels e.complaints (entryComplaints rest)

end

/-- The first complaint, the shallowest one first. -/
def Expr.complaint? (e : Expr) : Option Error :=
  e.complaints.flatten.head?

end ApiJourney.Transform
