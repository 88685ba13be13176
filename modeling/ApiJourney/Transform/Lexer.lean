-- SUMMARY: The tokens of a transform expression.
import ApiJourney.Number.Numeral
import ApiJourney.Text.CharacterName
import ApiJourney.Text.Identifier
import ApiJourney.Text.Normal
import ApiJourney.Text.Utf8
import ApiJourney.Transform.Expression

/-!
# Tokens

An expression is cut into words, numbers, texts and signs. Blanks and comments
separate tokens; a line ends the expression unless a bracket is open.
-/

namespace ApiJourney.Transform

open ApiJourney.Text

inductive Token where
  | word (id : String)
  /-- A word that has characters above ASCII as it is written; it is never a reserved one. -/
  | name (id : String)
  | number (l : Literal)
  | text (cs : List Char)
  | bytes (bs : List UInt8)
  /-- A text with embedded expressions, not taken apart yet. -/
  | formatted (raw : Bool) (body : List Char)
  | sign (s : String)

/-- The most brackets that may be open at once. -/
def maxBrackets : Nat := 200

/-! ## Numbers -/

def isWordChar (c : Char) : Bool :=
  isAsciiLetter c || isAsciiDigit c || c == '_' || 128 ≤ c.toNat

/-- The words that may stand right behind a number. -/
def joiningWords : List (List Char) :=
  ["and".toList, "else".toList, "for".toList, "if".toList, "in".toList, "is".toList,
   "or".toList, "not".toList]

/-- A number ends where no word goes on, or where a joining word starts. -/
def endsNumber (cs : List Char) : Bool :=
  match cs with
  | [] => true
  | c :: _ => !isWordChar c || joiningWords.any (·.isPrefixOf cs)

/-- Digits of a base, single underscores between them; `after` tells whether a digit
    stands before. -/
def digitGroups (isDigitOf : Char → Bool) (after : Bool) : List Char → Option (List Char × List Char)
  | [] => if after then some ([], []) else none
  | c :: rest =>
    if isDigitOf c then (digitGroups isDigitOf true rest).map fun (ds, r) => (c :: ds, r)
    else if !after then none
    else if c == '_' then digitGroups isDigitOf false rest
    else some ([], c :: rest)

/-- An integer of a marked base, behind its marker. -/
def markedInteger? (base : Nat) (cs : List Char) : Option (Literal × List Char) := do
  let cs := match cs with
    | '_' :: rest => rest
    | rest => rest
  let isDigitOf (c : Char) : Bool := (Numeral.digitValue? base c).isSome
  let (ds, rest) ← digitGroups isDigitOf false cs
  let tooHigh := (rest.head?.map isAsciiDigit).getD false
  if tooHigh || !endsNumber rest then none
  else some (.int (Numeral.ofDigits base (ds.filterMap (Numeral.digitValue? base))), rest)

/-- The exponent at the front; `none` inside when the number ends before the mark. -/
def exponent? (cs : List Char) : Option (Option (Int × List Char)) :=
  match cs with
  | e :: rest =>
    if e == 'e' || e == 'E' then
      match rest with
      | s :: more =>
        if s == '+' || s == '-' then do
          let (ds, rest) ← digitGroups isAsciiDigit false more
          let n : Int := Numeral.ofDigits 10 (ds.map fun c => c.toNat - 48)
          some (some (if s == '-' then -n else n, rest))
        else if isAsciiDigit s then do
          let (ds, rest) ← digitGroups isAsciiDigit false rest
          some (some (Numeral.ofDigits 10 (ds.map fun c => c.toNat - 48), rest))
        else if endsNumber cs then some none else none
      | [] => none
    else some none
  | [] => some none

/-- What follows the whole digits of a decimal number. -/
def decimalTail? (whole : List Char) (cs : List Char) : Option (Literal × List Char) := do
  let leadingZero := whole.head? == some '0' && whole.any (· != '0')
  let (hasPoint, fraction, cs) ← match cs with
    | '.' :: rest =>
      if (rest.head?.map isAsciiDigit).getD false then
        (digitGroups isAsciiDigit false rest).map fun (ds, rest) => (true, ds, rest)
      else some (true, [], rest)
    | cs => some (false, [], cs)
  let exponent ← exponent? cs
  let cs := (exponent.map Prod.snd).getD cs
  let isFloat := hasPoint || exponent.isSome
  let x := Numeral.ofParts false whole fraction ((exponent.map Prod.fst).getD 0)
  match cs with
  | c :: rest =>
    if c == 'j' || c == 'J' then
      if endsNumber rest then some (.complex (Binary64.zero false) x, rest) else none
    else if !endsNumber cs || (leadingZero && !isFloat) then none
    else if isFloat then some (.float x, cs)
    else some (.int (Numeral.ofDigits 10 (whole.map fun c => c.toNat - 48)), cs)
  | [] =>
    if leadingZero && !isFloat then none
    else if isFloat then some (.float x, [])
    else some (.int (Numeral.ofDigits 10 (whole.map fun c => c.toNat - 48)), [])

def numberToken? (cs : List Char) : Option (Literal × List Char) :=
  match cs with
  | '.' :: _ => decimalTail? [] cs
  | '0' :: c :: rest =>
    match Numeral.marker? ['0', c] with
    | some base => markedInteger? base rest
    | none => (digitGroups isAsciiDigit false cs).bind fun (ds, rest) => decimalTail? ds rest
  | cs => (digitGroups isAsciiDigit false cs).bind fun (ds, rest) => decimalTail? ds rest

/-! ## Texts -/

/-- The text up to the closing quotes, with backslashes as written; a single
    quote does not reach over a line end. -/
def quotedBody (quote : Char) (triple : Bool) : List Char → Option (List Char × List Char)
  | [] => none
  | '\\' :: c :: rest => do
    let (body, rest) ← quotedBody quote triple rest
    some ('\\' :: c :: body, rest)
  | c :: rest =>
    if c == quote then
      if !triple then some ([], rest)
      else match rest with
        | d :: e :: more =>
          if d == quote && e == quote then some ([], more)
          else do
            let (body, rest) ← quotedBody quote triple rest
            some (c :: body, rest)
        | _ => none
    else if c == '\n' && !triple then none
    else do
      let (body, rest) ← quotedBody quote triple rest
      some (c :: body, rest)

/-- The body of a text that starts with a quote. -/
def quotedText? : List Char → Option (List Char × List Char)
  | q :: r :: s :: rest =>
    if r == q && s == q then quotedBody q true rest
    else if r == q then some ([], s :: rest)
    else quotedBody q false (r :: s :: rest)
  | q :: rest => quotedBody q false rest
  | [] => none

/-- `count` hexadecimal digits. -/
def hexDigits? (count : Nat) (cs : List Char) : Option (Nat × List Char) := do
  let ds := cs.take count
  if ds.length < count then none
  else
    let vs ← ds.mapM (Numeral.digitValue? 16)
    some (Numeral.ofDigits 16 vs, cs.drop count)

def isOctal (c : Char) : Bool :=
  '0' ≤ c && c ≤ '7'

/-- The escapes that name one character. -/
def namedEscape? (c : Char) : Option Nat :=
  if c == '\\' || c == '\'' || c == '"' then some c.toNat
  else if c == 'a' then some 7
  else if c == 'b' then some 8
  else if c == 'f' then some 12
  else if c == 'n' then some 10
  else if c == 'r' then some 13
  else if c == 't' then some 9
  else if c == 'v' then some 11
  else none

/-- The character of a name between braces, and what follows it. -/
def namedCharacter? : List Char → Option (Nat × List Char)
  | '\x7b' :: rest => do
    let n ← CharacterName.code? (rest.takeWhile (· != '\x7d'))
    match rest.dropWhile (· != '\x7d') with
    | _ :: rest => some (n, rest)
    | [] => none
  | _ => none

/-- One escape behind its backslash: the code points it stands for and what
    follows. Unknown escapes stand for themselves. -/
def escape? (wide : Bool) (cs : List Char) : Option (List Nat × List Char) :=
  match cs with
  | [] => some ([92], [])
  | c :: rest =>
    if c == '\n' then some ([], rest)
    else match namedEscape? c with
      | some n => some ([n], rest)
      | none =>
        if isOctal c then
          let more := (rest.take 2).takeWhile isOctal
          let n := Numeral.ofDigits 8 ((c :: more).map fun d => d.toNat - 48)
          some ([n], rest.drop more.length)
        else if c == 'x' then (hexDigits? 2 rest).map fun (n, r) => ([n], r)
        else if wide && c == 'u' then (hexDigits? 4 rest).map fun (n, r) => ([n], r)
        else if wide && c == 'U' then
          (hexDigits? 8 rest).bind fun (n, r) => if n ≤ 0x10FFFF then some ([n], r) else none
        else if wide && c == 'N' then (namedCharacter? rest).map fun (n, r) => ([n], r)
        else some ([92, c.toNat], rest)

/-- The code points of a body whose escapes are read. -/
def unescaped? (wide : Bool) : Nat → List Char → Option (List Nat)
  | 0, _ => some []
  | _ + 1, [] => some []
  | fuel + 1, '\\' :: rest => do
    let (ns, rest) ← escape? wide rest
    let more ← unescaped? wide fuel rest
    some (ns ++ more)
  | fuel + 1, c :: rest => (unescaped? wide fuel rest).map (c.toNat :: ·)

/-- What stands before the opening quote. -/
structure TextMark where
  raw : Bool := false
  bytes : Bool := false
  formatted : Bool := false

def textMark? (word : List Char) : Option TextMark :=
  match Numeral.asciiLower word with
  | [] => some {}
  | ['u'] => some {}
  | ['r'] => some { raw := true }
  | ['b'] => some { bytes := true }
  | ['f'] => some { formatted := true }
  | ['b', 'r'] => some { raw := true, bytes := true }
  | ['r', 'b'] => some { raw := true, bytes := true }
  | ['f', 'r'] => some { raw := true, formatted := true }
  | ['r', 'f'] => some { raw := true, formatted := true }
  | _ => none

def TextMark.token? (m : TextMark) (body : List Char) : Option Token :=
  if m.formatted then some (.formatted m.raw body)
  else if m.bytes then
    if body.any (128 ≤ ·.toNat) then none
    else
      let codes := if m.raw then some (body.map Char.toNat) else unescaped? false (body.length + 1) body
      codes.map fun ns => .bytes (ns.map UInt8.ofNat)
  else if m.raw then some (.text body)
  else (unescaped? true (body.length + 1) body).map fun ns => .text (ns.map ofCode)

/-! ## Signs -/

/-- The signs, longer ones first. -/
def signs : List String :=
  ["**=", "//=", ">>=", "<<=", "...",
   "**", "//", ">>", "<<", "<=", ">=", "==", "!=", "<>", "->", ":=", "+=", "-=", "*=", "/=",
   "%=", "&=", "|=", "^=", "@=",
   "(", ")", "[", "]", "\x7b", "\x7d", ":", ",", ";", ".", "+", "-", "*", "/", "|", "&",
   "<", ">", "=", "%", "~", "^", "@"]

def sign? (cs : List Char) : Option (String × List Char) :=
  signs.findSome? fun s => if s.toList.isPrefixOf cs then some (s, cs.drop s.length) else none

def opens (s : String) : Bool := s == "(" || s == "[" || s == "\x7b"
def closes (s : String) : Bool := s == ")" || s == "]" || s == "\x7d"

/-! ## Lines -/

def dropComment (cs : List Char) : List Char :=
  cs.dropWhile (· != '\n')

/-- All line ends become line feeds. -/
def unifyLines : List Char → List Char
  | '\r' :: '\n' :: rest => '\n' :: unifyLines rest
  | '\r' :: rest => '\n' :: unifyLines rest
  | c :: rest => c :: unifyLines rest
  | [] => []

/-- Skips blank lines and comments before the expression; `column` is the
    indentation so far and `kept` the one before the first continuation. The
    expression itself is not indented. -/
def skipLeading (column kept : Nat) : List Char → Option (List Char)
  | [] => some []
  | c :: rest =>
    if c == ' ' then skipLeading (column + 1) kept rest
    else if c == '\t' then skipLeading ((column / 8 + 1) * 8) kept rest
    else if c.toNat == 12 then skipLeading 0 kept rest
    else if c == '\n' then skipLeading 0 0 rest
    else if c == '\\' then
      match rest with
      | '\n' :: d :: more => skipLeading column (if kept = 0 then column else kept) (d :: more)
      | _ => none
    else if c == '#' then skipComment rest
    else if (if kept = 0 then column else kept) = 0 then some (c :: rest) else none
where
  skipComment : List Char → Option (List Char)
    | [] => some []
    | '\n' :: rest => skipLeading 0 0 rest
    | _ :: rest => skipComment rest

/-- Only blank lines and comments follow the end of the expression. -/
def onlyBlank : List Char → Bool
  | [] => true
  | c :: rest =>
    if c == ' ' || c == '\t' || c == '\n' || c.toNat == 12 then onlyBlank rest
    else if c == '#' then inComment rest
    else false
where
  inComment : List Char → Bool
    | [] => true
    | '\n' :: rest => onlyBlank rest
    | _ :: rest => inComment rest

/-! ## Tokens -/

/-- A word in its normal form. -/
def Token.ofWord (word : List Char) : Token :=
  if word.all (·.toNat < 128) then .word (String.ofList word)
  else .name (String.ofList (normalForm word))

/-- A word, or a text that is marked by it. -/
def wordToken? (cs : List Char) : Option (Token × List Char) :=
  let word := cs.takeWhile isWordChar
  let rest := cs.dropWhile isWordChar
  let quoted := match rest with
    | q :: _ => if q == '\'' || q == '"' then textMark? word else none
    | [] => none
  match quoted with
  | some mark => do
    let (body, rest) ← quotedText? rest
    let t ← mark.token? body
    some (t, rest)
  | none => if isName word then some (.ofWord word, rest) else none

/-- The tokens of a text with `depth` brackets open. -/
def tokens : Nat → Nat → List Char → Option (List Token)
  | 0, _, _ => none
  | _ + 1, _, [] => some []
  | fuel + 1, depth, c :: rest =>
    if c == ' ' || c == '\t' || c.toNat == 12 then tokens fuel depth rest
    else if c == '#' then tokens fuel depth (dropComment rest)
    else if c == '\n' then
      if depth = 0 then (if onlyBlank rest then some [] else none) else tokens fuel depth rest
    else if c == '\\' then
      match rest with
      | '\n' :: d :: more => tokens fuel depth (d :: more)
      | _ => none
    else if isAsciiDigit c || (c == '.' && (rest.head?.map isAsciiDigit).getD false) then do
      let (l, rest) ← numberToken? (c :: rest)
      let ts ← tokens fuel depth rest
      some (.number l :: ts)
    else if isWordChar c || c == '\'' || c == '"' then do
      let (t, rest) ← wordToken? (c :: rest)
      let ts ← tokens fuel depth rest
      some (t :: ts)
    else do
      let (s, rest) ← sign? (c :: rest)
      if opens s && maxBrackets ≤ depth then none
      else
        let depth := if opens s then depth + 1 else if closes s then depth - 1 else depth
        let ts ← tokens fuel depth rest
        some (.sign s :: ts)

/-- The tokens of an expression that may start below comments. -/
def lex (cs : List Char) : Option (List Token) := do
  let cs ← skipLeading 0 0 (unifyLines cs)
  tokens (cs.length + 1) 0 cs

end ApiJourney.Transform
