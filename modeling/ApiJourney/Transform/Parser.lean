-- SUMMARY: Reading transform expressions from tokens.
import ApiJourney.Transform.Lexer

/-!
# Grammar

A recursive-descent reader of expressions. It accepts the whole expression
grammar, so that a construct outside of the transform language is told from a
malformed text. Every function takes a bound on the depth and length of what it
may still read; `parse?` supplies one that suffices.
-/

namespace ApiJourney.Transform

open ApiJourney.Text

abbrev Tokens := List Token

/-! ## Words and signs -/

def reserved : List String :=
  ["False", "None", "True", "and", "as", "assert", "async", "await", "break", "class",
   "continue", "def", "del", "elif", "else", "except", "finally", "for", "from", "global",
   "if", "import", "in", "is", "lambda", "nonlocal", "not", "or", "pass", "raise", "return",
   "try", "while", "with", "yield"]

def isSign (s : String) : Tokens → Bool
  | .sign t :: _ => s == t
  | _ => false

def isWordOf (w : String) : Tokens → Bool
  | .word t :: _ => w == t
  | _ => false

def expect (s : String) : Tokens → Option Tokens
  | .sign t :: rest => if s == t then some rest else none
  | _ => none

def expectWord (w : String) : Tokens → Option Tokens
  | .word t :: rest => if w == t then some rest else none
  | _ => none

/-- A name that is not a reserved word. -/
def freeName? : Tokens → Option (String × Tokens)
  | .word t :: rest => if reserved.contains t then none else some (t, rest)
  | .name t :: rest => some (t, rest)
  | _ => none

/-- The start of a comprehension. -/
def startsFor (ts : Tokens) : Bool :=
  isWordOf "for" ts || (isWordOf "async" ts && isWordOf "for" ts.tail)

def isClosing (ts : Tokens) : Bool :=
  isSign ")" ts || isSign "]" ts || isSign "\x7d" ts

/-! ## Operators -/

/-- Operators between operands and how tightly they bind. -/
def binaryOps : List (String × Nat × BinaryOp) :=
  [("|", 0, .bitOr), ("^", 1, .bitXor), ("&", 2, .bitAnd), ("<<", 3, .shiftLeft),
   (">>", 3, .shiftRight), ("+", 4, .add), ("-", 4, .sub), ("*", 5, .mul), ("/", 5, .div),
   ("//", 5, .floorDiv), ("%", 5, .mod), ("@", 5, .matMul)]

def binaryOp? : Tokens → Option ((Nat × BinaryOp) × Tokens)
  | .sign s :: rest => (binaryOps.lookup s).map fun op => (op, rest)
  | _ => none

def unaryOp? : Tokens → Option (UnaryOp × Tokens)
  | .sign "-" :: rest => some (.neg, rest)
  | .sign "+" :: rest => some (.pos, rest)
  | .sign "~" :: rest => some (.invert, rest)
  | _ => none

def compareOp? : Tokens → Option (CompareOp × Tokens)
  | .sign "==" :: rest => some (.eq, rest)
  | .sign "!=" :: rest => some (.ne, rest)
  | .sign "<=" :: rest => some (.le, rest)
  | .sign "<" :: rest => some (.lt, rest)
  | .sign ">=" :: rest => some (.ge, rest)
  | .sign ">" :: rest => some (.gt, rest)
  | .word "in" :: rest => some (.isIn, rest)
  | .word "not" :: .word "in" :: rest => some (.notIn, rest)
  | .word "is" :: .word "not" :: rest => some (.isNot, rest)
  | .word "is" :: rest => some (.is, rest)
  | _ => none

/-! ## Shapes -/

mutual

/-- What a comprehension may bind. -/
def isTarget : Expr → Bool
  | .name _ => true
  | .attribute _ _ => true
  | .subscript _ _ => true
  | .tuple es => areTargets es
  | .list es => areTargets es
  | .starred e => isTarget e
  | _ => false

def areTargets : List Expr → Bool
  | [] => true
  | e :: rest => isTarget e && areTargets rest

end

/-- How far a parameter list has come. -/
inductive ParameterStage where
  | plain
  | withDefault
  /-- Behind a bare star, which needs a parameter. -/
  | bareStar
  | keywordOnly
  | closed
  deriving DecidableEq

/-- The parts of a text with embedded expressions up to the next one. -/
inductive Embedded where
  | done
  | expression (rest : List Char)
  | closing (rest : List Char)

/-- Whether every escape of a part of a text can be read. -/
def escapesReadable (raw : Bool) (part : List Char) : Bool :=
  raw || (unescaped? true (part.length + 1) part).isSome

/-- The character that is named behind its escape, as it is written: up to the closing brace,
    or only what stands in place of the opening one. -/
def writtenName : List Char → List Char
  | '\x7b' :: rest => '\x7b' :: rest.takeWhile (· != '\x7d') ++ (rest.dropWhile (· != '\x7d')).take 1
  | c :: _ => [c]
  | [] => []

/-- Skips to the next embedded expression over `part`, which is held backwards and whose escapes
    must be readable. At the top level doubled braces stand for one, and a single closing
    brace is refused. -/
def nextEmbedded (raw nested : Bool) (part : List Char) : Nat → List Char → Option Embedded
  | 0, _ => none
  | _ + 1, [] => finish .done
  | fuel + 1, '\\' :: c :: rest =>
    if raw || c == '\x7b' || c == '\x7d' then nextEmbedded raw nested ('\\' :: part) fuel (c :: rest)
    else
      let name := if c == 'N' then writtenName rest else []
      nextEmbedded raw nested (name.reverse ++ c :: '\\' :: part) fuel (rest.drop name.length)
  | fuel + 1, c :: rest =>
    if c == '\x7b' || c == '\x7d' then
      if !nested && rest.head? == some c then
        if escapesReadable raw (c :: part).reverse then nextEmbedded raw nested [] fuel (rest.drop 1)
        else none
      else if c == '\x7b' then finish (.expression rest)
      else if nested then finish (.closing (c :: rest))
      else none
    else nextEmbedded raw nested (c :: part) fuel rest
where
  finish (e : Embedded) : Option Embedded :=
    if escapesReadable raw part.reverse then some e else none

/-- A quote that is open inside of an embedded expression. -/
structure OpenQuote where
  quote : Char
  triple : Bool

/-- The text of an embedded expression and what follows it, from its conversion,
    format or closing brace on. -/
def embeddedText (quote : Option OpenQuote) (brackets : List Char) :
    List Char → Option (List Char × List Char)
  | [] => none
  | c :: rest =>
    if c == '\\' then none
    else match quote with
      | some q =>
        if c == q.quote then
          if !q.triple then keep c (embeddedText none brackets rest)
          else match rest with
            | d :: e :: more =>
              if d == c && e == c then
                (embeddedText none brackets more).map fun (t, r) => (c :: c :: c :: t, r)
              else keep c (embeddedText quote brackets (d :: e :: more))
            | rest => keep c (embeddedText quote brackets rest)
        else keep c (embeddedText quote brackets rest)
      | none =>
        if c == '\'' || c == '"' then
          match rest with
          | d :: e :: more =>
            if d == c && e == c then
              (embeddedText (some ⟨c, true⟩) brackets more).map fun (t, r) => (c :: c :: c :: t, r)
            else keep c (embeddedText (some ⟨c, false⟩) brackets (d :: e :: more))
          | rest => keep c (embeddedText (some ⟨c, false⟩) brackets rest)
        else if c == '(' || c == '[' || c == '\x7b' then
          if maxBrackets ≤ brackets.length then none
          else keep c (embeddedText none (c :: brackets) rest)
        else if c == '#' then none
        else if brackets.isEmpty && isEnd c then
          if (c == '!' || c == '=' || c == '<' || c == '>') && rest.head? == some '=' then
            match rest with
            | d :: more => (embeddedText none brackets more).map fun (t, r) => (c :: d :: t, r)
            | [] => none
          else if c == '<' || c == '>' then keep c (embeddedText none brackets rest)
          else some ([], c :: rest)
        else if c == ')' || c == ']' || c == '\x7d' then
          match brackets with
          | b :: outer => if isPair b c then keep c (embeddedText none outer rest) else none
          | [] => none
        else keep c (embeddedText none brackets rest)
where
  keep (c : Char) (r : Option (List Char × List Char)) : Option (List Char × List Char) :=
    r.map fun (t, rest) => (c :: t, rest)
  isEnd (c : Char) : Bool :=
    c == '!' || c == ':' || c == '\x7d' || c == '=' || c == '>' || c == '<'
  isPair (b c : Char) : Bool :=
    (b == '(' && c == ')') || (b == '[' && c == ']') || (b == '\x7b' && c == '\x7d')

/-- Skips the sign that repeats an embedded expression, and a conversion. -/
def skipConversion? (cs : List Char) : Option (List Char) := do
  let cs := match cs with
    | '=' :: rest => rest.dropWhile Numeral.isAsciiBlank
    | cs => cs
  match cs with
  | '!' :: c :: rest => if c == 's' || c == 'r' || c == 'a' then some rest else none
  | '!' :: [] => none
  | cs => some cs

/-! ## Grammar -/

mutual

/-- A lambda, a conditional, or a disjunction. -/
def expression : Nat → Tokens → Option (Expr × Tokens)
  | 0, _ => none
  | fuel + 1, .word "lambda" :: rest => do
    let rest ← parameters fuel .plain false true rest
    let (_, rest) ← expression fuel rest
    some (.foreign "Lambda", rest)
  | fuel + 1, ts => do
    let (body, ts) ← disjunction fuel ts
    if isWordOf "if" ts then
      let (test, ts) ← disjunction fuel ts.tail
      let ts ← expectWord "else" ts
      let (orelse, ts) ← expression fuel ts
      some (.ifElse test body orelse, ts)
    else some (body, ts)

/-- The parameters of a lambda up to the colon. -/
def parameters : Nat → ParameterStage → Bool → Bool → Tokens → Option Tokens
  | 0, _, _, _, _ => none
  | fuel + 1, stage, slashed, first, ts =>
    let next (stage : ParameterStage) (slashed : Bool) (ts : Tokens) : Option Tokens :=
      if isSign "," ts then parameters fuel stage slashed false ts.tail
      else if isSign ":" ts && stage != .bareStar then some ts.tail
      else none
    if isSign ":" ts then (if stage = .bareStar then none else some ts.tail)
    else if stage = .closed then none
    else if isSign "/" ts then
      if first || slashed || stage = .bareStar || stage = .keywordOnly then none
      else next stage true ts.tail
    else if isSign "**" ts then
      if stage = .bareStar then none
      else do
        let (_, ts) ← freeName? ts.tail
        next .closed slashed ts
    else if isSign "*" ts then
      if stage = .bareStar || stage = .keywordOnly then none
      else match freeName? ts.tail with
        | some (_, ts) => next .keywordOnly slashed ts
        | none => if isSign "," ts.tail then next .bareStar slashed ts.tail else none
    else do
      let (_, ts) ← freeName? ts
      if isSign "=" ts then
        let (_, ts) ← expression fuel ts.tail
        next (if stage = .plain then .withDefault else if stage = .bareStar then .keywordOnly else stage)
          slashed ts
      else if stage = .withDefault then none
      else next (if stage = .bareStar then .keywordOnly else stage) slashed ts

def disjunction : Nat → Tokens → Option (Expr × Tokens)
  | 0, _ => none
  | fuel + 1, ts => do
    let (e, ts) ← conjunction fuel ts
    let (es, ts) ← alternatives fuel ts
    some (if es.isEmpty then e else .any (e :: es), ts)

def alternatives : Nat → Tokens → Option ((List Expr) × Tokens)
  | 0, _ => none
  | fuel + 1, ts =>
    if isWordOf "or" ts then do
      let (e, ts) ← conjunction fuel ts.tail
      let (es, ts) ← alternatives fuel ts
      some (e :: es, ts)
    else some ([], ts)

def conjunction : Nat → Tokens → Option (Expr × Tokens)
  | 0, _ => none
  | fuel + 1, ts => do
    let (e, ts) ← inversion fuel ts
    let (es, ts) ← conjuncts fuel ts
    some (if es.isEmpty then e else .all (e :: es), ts)

def conjuncts : Nat → Tokens → Option ((List Expr) × Tokens)
  | 0, _ => none
  | fuel + 1, ts =>
    if isWordOf "and" ts then do
      let (e, ts) ← inversion fuel ts.tail
      let (es, ts) ← conjuncts fuel ts
      some (e :: es, ts)
    else some ([], ts)

def inversion : Nat → Tokens → Option (Expr × Tokens)
  | 0, _ => none
  | fuel + 1, ts =>
    if isWordOf "not" ts then do
      let (e, ts) ← inversion fuel ts.tail
      some (.unary .not e, ts)
    else do
      let (e, ts) ← operation fuel 0 ts
      let (rest, ts) ← comparisons fuel ts
      some (if rest.isEmpty then e else .compare e rest, ts)

def comparisons : Nat → Tokens → Option ((List (CompareOp × Expr)) × Tokens)
  | 0, _ => none
  | fuel + 1, ts =>
    match compareOp? ts with
    | some (op, ts) => do
      let (e, ts) ← operation fuel 0 ts
      let (rest, ts) ← comparisons fuel ts
      some ((op, e) :: rest, ts)
    | none => some ([], ts)

/-- Operands joined by operators that bind at least as tightly as `level`. -/
def operation : Nat → Nat → Tokens → Option (Expr × Tokens)
  | 0, _, _ => none
  | fuel + 1, level, ts => do
    let (e, ts) ← factor fuel ts
    operationRest fuel level e ts

def operationRest : Nat → Nat → Expr → Tokens → Option (Expr × Tokens)
  | 0, _, _, _ => none
  | fuel + 1, level, left, ts =>
    match binaryOp? ts with
    | some ((tightness, op), rest) =>
      if level ≤ tightness then do
        let (right, ts) ← operation fuel (tightness + 1) rest
        operationRest fuel level (.binary op left right) ts
      else some (left, ts)
    | none => some (left, ts)

def factor : Nat → Tokens → Option (Expr × Tokens)
  | 0, _ => none
  | fuel + 1, ts =>
    match unaryOp? ts with
    | some (op, ts) => do
      let (e, ts) ← factor fuel ts
      some (.unary op e, ts)
    | none => do
      let (e, ts) ← awaited fuel ts
      if isSign "**" ts then
        let (r, ts) ← factor fuel ts.tail
        some (.binary .pow e r, ts)
      else some (e, ts)

def awaited : Nat → Tokens → Option (Expr × Tokens)
  | 0, _ => none
  | fuel + 1, ts =>
    if isWordOf "await" ts then do
      let (e, ts) ← atom fuel ts.tail
      let (_, ts) ← trailers fuel e ts
      some (.foreign "Await", ts)
    else do
      let (e, ts) ← atom fuel ts
      trailers fuel e ts

/-- Attributes, calls and subscripts behind an atom. -/
def trailers : Nat → Expr → Tokens → Option (Expr × Tokens)
  | 0, _, _ => none
  | fuel + 1, e, ts =>
    if isSign "." ts then do
      let (name, ts) ← freeName? ts.tail
      trailers fuel (.attribute e name) ts
    else if isSign "(" ts then do
      let ((args, kws), ts) ← arguments fuel true false false ts.tail
      trailers fuel (.call e args kws) ts
    else if isSign "[" ts then do
      let (i, ts) ← index fuel ts.tail
      trailers fuel (.subscript e i) ts
    else some (e, ts)

/-- The arguments of a call up to the closing parenthesis. -/
def arguments : Nat → Bool → Bool → Bool → Tokens → Option ((List Expr × List (Option String × Expr)) × Tokens)
  | 0, _, _, _, _ => none
  | fuel + 1, first, named, spread, ts =>
    let next (arg : Option Expr) (kw : Option (Option String × Expr)) (named spread : Bool)
        (ts : Tokens) : Option ((List Expr × List (Option String × Expr)) × Tokens) :=
      if isSign ")" ts then some ((arg.toList, kw.toList), ts.tail)
      else do
        let ts ← expect "," ts
        let ((args, kws), ts) ← arguments fuel false named spread ts
        some ((arg.toList ++ args, kw.toList ++ kws), ts)
    if isSign ")" ts then some (([], []), ts.tail)
    else if isSign "*" ts then do
      let (e, ts) ← expression fuel ts.tail
      if spread then none else next (some (.starred e)) none named spread ts
    else if isSign "**" ts then do
      let (e, ts) ← expression fuel ts.tail
      next none (some (none, e)) named true ts
    else
      match freeName? ts with
      | some (id, .sign "=" :: rest) => do
        let (e, ts) ← expression fuel rest
        next none (some (some id, e)) true spread ts
      | _ => do
        let (e, ts) ← namedExpression fuel ts
        if startsFor ts then
          let ts ← generators fuel ts
          if first && isSign ")" ts then some (([.foreign "GeneratorExp"], []), ts.tail) else none
        else if named || spread then none
        else next (some e) none named spread ts

/-- What stands between the brackets of a subscript. -/
def index : Nat → Tokens → Option (Expr × Tokens)
  | 0, _ => none
  | fuel + 1, ts => do
    let (e, starred, ts) ← indexItem fuel ts
    if isSign "]" ts then some (if starred then .tuple [e] else e, ts.tail)
    else
      let ts ← expect "," ts
      let (es, ts) ← indexItems fuel ts
      some (.tuple (e :: es), ts)

def indexItems : Nat → Tokens → Option ((List Expr) × Tokens)
  | 0, _ => none
  | fuel + 1, ts =>
    if isSign "]" ts then some ([], ts.tail)
    else do
      let (e, _, ts) ← indexItem fuel ts
      if isSign "]" ts then some ([e], ts.tail)
      else
        let ts ← expect "," ts
        let (es, ts) ← indexItems fuel ts
        some (e :: es, ts)

/-- An index, a slice, or a starred one. -/
def indexItem : Nat → Tokens → Option (Expr × Bool × Tokens)
  | 0, _ => none
  | fuel + 1, ts =>
    if isSign "*" ts then do
      let (e, ts) ← expression fuel ts.tail
      some (.starred e, true, ts)
    else if isSign ":" ts then do
      let (e, ts) ← sliceRest fuel none ts
      some (e, false, ts)
    else do
      let (e, after) ← namedExpression fuel ts
      if isSign ":" after then
        let (e, after) ← expression fuel ts
        let (e, ts) ← sliceRest fuel (some e) after
        some (e, false, ts)
      else some (e, false, after)

/-- The parts of a slice from its first colon on. -/
def sliceRest : Nat → Option Expr → Tokens → Option (Expr × Tokens)
  | 0, _, _ => none
  | fuel + 1, start, ts => do
    let (stop, ts) ← bound fuel ts.tail
    if isSign ":" ts then
      let (step, ts) ← bound fuel ts.tail
      some (.slice start stop step, ts)
    else some (.slice start stop none, ts)

/-- A bound of a slice, which may be left out. -/
def bound : Nat → Tokens → Option ((Option Expr) × Tokens)
  | 0, _ => none
  | fuel + 1, ts =>
    if isSign ":" ts || isSign "," ts || isSign "]" ts then some (none, ts)
    else do
      let (e, ts) ← expression fuel ts
      some (some e, ts)

/-- An expression that may be bound to a name. -/
def namedExpression : Nat → Tokens → Option (Expr × Tokens)
  | 0, _ => none
  | fuel + 1, ts =>
    match freeName? ts with
    | some (_, .sign ":=" :: rest) => do
      let (_, ts) ← expression fuel rest
      some (.foreign "NamedExpr", ts)
    | _ => expression fuel ts

/-- An item of a display, which may be starred. -/
def item : Nat → Tokens → Option (Expr × Tokens)
  | 0, _ => none
  | fuel + 1, ts =>
    if isSign "*" ts then do
      let (e, ts) ← operation fuel 0 ts.tail
      some (.starred e, ts)
    else namedExpression fuel ts

/-- Items up to a closing bracket, which is left. -/
def itemList : Nat → Tokens → Option ((List Expr) × Tokens)
  | 0, _ => none
  | fuel + 1, ts =>
    if isClosing ts then some ([], ts)
    else do
      let (e, ts) ← item fuel ts
      if isSign "," ts then
        let (es, ts) ← itemList fuel ts.tail
        some (e :: es, ts)
      else some ([e], ts)

/-- The clauses of a comprehension. -/
def generators : Nat → Tokens → Option Tokens
  | 0, _ => none
  | fuel + 1, ts => do
    let ts := if isWordOf "async" ts then ts.tail else ts
    let ts ← expectWord "for" ts
    let ts ← targets fuel ts
    let ts ← expectWord "in" ts
    let (_, ts) ← disjunction fuel ts
    let ts ← conditions fuel ts
    if startsFor ts then generators fuel ts else some ts

def targets : Nat → Tokens → Option Tokens
  | 0, _ => none
  | fuel + 1, ts => do
    let starred := isSign "*" ts
    let ts := if starred then ts.tail else ts
    let (e, ts) ← operation fuel 0 ts
    if !isTarget e then none
    else if isSign "," ts then
      if isWordOf "in" ts.tail then some ts.tail else targets fuel ts.tail
    else some ts

def conditions : Nat → Tokens → Option Tokens
  | 0, _ => none
  | fuel + 1, ts =>
    if isWordOf "if" ts then do
      let (_, ts) ← disjunction fuel ts.tail
      conditions fuel ts
    else some ts

def atom : Nat → Tokens → Option (Expr × Tokens)
  | 0, _ => none
  | fuel + 1, ts =>
    match ts with
    | .word "True" :: rest => some (.constant (.bool true), rest)
    | .word "False" :: rest => some (.constant (.bool false), rest)
    | .word "None" :: rest => some (.constant .null, rest)
    | .word id :: rest => if reserved.contains id then none else some (.name id, rest)
    | .name id :: rest => some (.name id, rest)
    | .number l :: rest => some (.constant l, rest)
    | .sign "..." :: rest => some (.constant .ellipsis, rest)
    | .sign "(" :: rest => parenthesized fuel rest
    | .sign "[" :: rest => bracketed fuel rest
    | .sign "\x7b" :: rest => braced fuel rest
    | .text cs :: rest => texts fuel cs false rest
    | .formatted raw body :: rest =>
      if formattedOk fuel raw body then texts fuel [] true rest else none
    | .bytes bs :: rest => byteTexts fuel bs rest
    | _ => none

/-- Texts side by side are one; one with embedded expressions makes the whole foreign. -/
def texts : Nat → List Char → Bool → Tokens → Option (Expr × Tokens)
  | 0, _, _, _ => none
  | fuel + 1, cs, embedded, ts =>
    match ts with
    | .text more :: rest => texts fuel (cs ++ more) embedded rest
    | .formatted raw body :: rest =>
      if formattedOk fuel raw body then texts fuel cs true rest else none
    | .bytes _ :: _ => none
    | ts => some (if embedded then .foreign "JoinedStr" else .constant (.text (String.ofList cs)), ts)

def byteTexts : Nat → List UInt8 → Tokens → Option (Expr × Tokens)
  | 0, _, _ => none
  | fuel + 1, bs, ts =>
    match ts with
    | .bytes more :: rest => byteTexts fuel (bs ++ more) rest
    | .text _ :: _ => none
    | .formatted _ _ :: _ => none
    | ts => some (.constant (.bytes bs), ts)

/-- What stands between parentheses. -/
def parenthesized : Nat → Tokens → Option (Expr × Tokens)
  | 0, _ => none
  | fuel + 1, ts =>
    if isSign ")" ts then some (.tuple [], ts.tail)
    else if isWordOf "yield" ts then do
      let (kind, ts) ← yielded fuel ts.tail
      let ts ← expect ")" ts
      some (.foreign kind, ts)
    else do
      let (e, ts) ← item fuel ts
      let starred := match e with
        | .starred _ => true
        | _ => false
      if isSign "," ts then
        let (es, ts) ← itemList fuel ts.tail
        let ts ← expect ")" ts
        some (.tuple (e :: es), ts)
      else if starred then none
      else if startsFor ts then
        let ts ← generators fuel ts
        let ts ← expect ")" ts
        some (.foreign "GeneratorExp", ts)
      else
        let ts ← expect ")" ts
        some (e, ts)

/-- What follows the word `yield`. -/
def yielded : Nat → Tokens → Option (String × Tokens)
  | 0, _ => none
  | fuel + 1, ts =>
    if isWordOf "from" ts then do
      let (_, ts) ← expression fuel ts.tail
      some ("YieldFrom", ts)
    else if isSign ")" ts then some ("Yield", ts)
    else do
      let ts ← starredItems fuel ts
      some ("Yield", ts)

/-- Expressions, some starred, up to a closing parenthesis. -/
def starredItems : Nat → Tokens → Option Tokens
  | 0, _ => none
  | fuel + 1, ts => do
    let (_, ts) ← if isSign "*" ts then operation fuel 0 ts.tail else expression fuel ts
    if isSign "," ts then
      if isSign ")" ts.tail then some ts.tail else starredItems fuel ts.tail
    else some ts

/-- A list or a comprehension of one. -/
def bracketed : Nat → Tokens → Option (Expr × Tokens)
  | 0, _ => none
  | fuel + 1, ts =>
    if isSign "]" ts then some (.list [], ts.tail)
    else do
      let (e, ts) ← item fuel ts
      let starred := match e with
        | .starred _ => true
        | _ => false
      if isSign "," ts then
        let (es, ts) ← itemList fuel ts.tail
        let ts ← expect "]" ts
        some (.list (e :: es), ts)
      else if startsFor ts then
        let ts ← generators fuel ts
        let ts ← expect "]" ts
        if starred then none else some (.foreign "ListComp", ts)
      else
        let ts ← expect "]" ts
        some (.list [e], ts)

/-- An object, a set, or a comprehension of one. -/
def braced : Nat → Tokens → Option (Expr × Tokens)
  | 0, _ => none
  | fuel + 1, ts =>
    if isSign "\x7d" ts then some (.dict [], ts.tail)
    else if isSign "**" ts then do
      let (es, ts) ← entries fuel ts
      some (.dict es, ts)
    else do
      let (e, after) ← item fuel ts
      if isSign ":" after then
        let (k, after) ← expression fuel ts
        let after ← expect ":" after
        let (v, after) ← expression fuel after
        if startsFor after then
          let ts ← generators fuel after
          let ts ← expect "\x7d" ts
          some (.foreign "DictComp", ts)
        else if isSign "," after then
          let (es, ts) ← entries fuel after.tail
          some (.dict ((some k, v) :: es), ts)
        else
          let ts ← expect "\x7d" after
          some (.dict [(some k, v)], ts)
      else
        let starred := match e with
          | .starred _ => true
          | _ => false
        if isSign "," after then
          let (_, ts) ← itemList fuel after.tail
          let ts ← expect "\x7d" ts
          some (.foreign "Set", ts)
        else if startsFor after then
          let ts ← generators fuel after
          let ts ← expect "\x7d" ts
          if starred then none else some (.foreign "SetComp", ts)
        else
          let ts ← expect "\x7d" after
          some (.foreign "Set", ts)

/-- The entries of an object up to its closing brace. -/
def entries : Nat → Tokens → Option ((List (Option Expr × Expr)) × Tokens)
  | 0, _ => none
  | fuel + 1, ts =>
    if isSign "\x7d" ts then some ([], ts.tail)
    else do
      let (e, ts) ← entry fuel ts
      if isSign "," ts then
        let (es, ts) ← entries fuel ts.tail
        some (e :: es, ts)
      else
        let ts ← expect "\x7d" ts
        some ([e], ts)

def entry : Nat → Tokens → Option ((Option Expr × Expr) × Tokens)
  | 0, _ => none
  | fuel + 1, ts =>
    if isSign "**" ts then do
      let (e, ts) ← operation fuel 0 ts.tail
      some ((none, e), ts)
    else do
      let (k, ts) ← expression fuel ts
      let ts ← expect ":" ts
      let (v, ts) ← expression fuel ts
      some ((some k, v), ts)

/-- Whether the embedded expressions of a text can be read. -/
def formattedOk : Nat → Bool → List Char → Bool
  | 0, _, _ => false
  | fuel + 1, raw, body =>
    match embedded fuel raw false body with
    | some [] => true
    | _ => false

/-- Embedded expressions up to the end of the text or, nested, a closing brace. -/
def embedded : Nat → Bool → Bool → List Char → Option (List Char)
  | 0, _, _, _ => none
  | fuel + 1, raw, nested, cs =>
    match nextEmbedded raw nested [] (cs.length + 1) cs with
    | none => none
    | some .done => some []
    | some (.closing rest) => some rest
    | some (.expression rest) => do
      let (text, rest) ← embeddedText none [] rest
      let blank := text.all fun c => c == ' ' || c == '\t' || c == '\n' || c.toNat == 12
      let ts ← if blank then none else lex ('(' :: text ++ [')'])
      let _ ← starredItems fuel ts
      let rest ← skipConversion? rest
      match rest with
      | '\x7d' :: rest => embedded fuel raw nested rest
      | ':' :: rest =>
        if nested then nestedFormat fuel raw rest
        else do
          let rest ← embedded fuel raw true rest
          match rest with
          | '\x7d' :: rest => embedded fuel raw nested rest
          | _ => none
      | _ => none

/-- The format of an expression inside of a format holds no further expressions. -/
def nestedFormat : Nat → Bool → List Char → Option (List Char)
  | 0, _, _ => none
  | fuel + 1, raw, cs =>
    match nextEmbedded raw true [] (cs.length + 1) cs with
    | some (.closing ('\x7d' :: rest)) => embedded fuel raw true rest
    | _ => none

end

/-- Expressions separated by commas, which make a tuple. -/
def expressions : Nat → Tokens → Option (List Expr × Bool)
  | 0, _ => none
  | fuel + 1, ts => do
    let (e, ts) ← expression fuel ts
    match ts with
    | [] => some ([e], false)
    | .sign "," :: [] => some ([e], true)
    | .sign "," :: rest => (expressions fuel rest).map fun (es, _) => (e :: es, true)
    | _ => none

/-- The expression that a text stands for. -/
def parse? (cs : List Char) : Option Expr := do
  let ts ← lex cs
  match ← expressions (40 * (cs.length + 2)) ts with
  | ([e], false) => some e
  | (es, _) => some (.tuple es)

end ApiJourney.Transform
