-- SUMMARY: Reading regular expressions.
import ApiJourney.Fault
import ApiJourney.Pattern.Syntax
import ApiJourney.Text.CharacterName
import ApiJourney.Text.Identifier
import ApiJourney.Text.Quoted

/-!
# Reading patterns

A reader of regular expressions. It works on tokens: single characters, and
pairs of a backslash and a character. Most malformed expressions are invalid,
and what is wrong with them is told with its place; numbers that are too large
and contradicting options are faults.
-/

namespace ApiJourney.Pattern

open ApiJourney.Text

/-- What is wrong with an expression, and before which of its characters. What a finished
    pattern asks for in vain has no place. -/
structure Flaw where
  message : String
  position : Option Nat
  deriving DecidableEq

/-- The message of a flaw; in an expression of several lines, its place is also a line and a
    column. -/
def Flaw.text (source : List Char) (f : Flaw) : String :=
  match f.position with
  | none => f.message
  | some n =>
    let front := source.take n
    let line := front.count '\n' + 1
    let column := (front.reverse.takeWhile (· != '\n')).length + 1
    if source.contains '\n' then s!"{f.message} at position {n} (line {line}, column {column})"
    else s!"{f.message} at position {n}"

/-- Why an expression is no pattern. -/
inductive Failure where
  | invalid (flaw : Flaw)
  | fault (f : Fault)
  deriving DecidableEq

/-! ## Tokens -/

inductive Token where
  | plain (c : Char)
  | escaped (c : Char)
  /-- A backslash at the end. -/
  | broken
  deriving DecidableEq

def tokens : List Char → List Token
  | [] => []
  | '\\' :: c :: rest => .escaped c :: tokens rest
  | ['\\'] => [.broken]
  | c :: rest => .plain c :: tokens rest

def Token.chars : Token → List Char
  | .plain c => [c]
  | .escaped c => ['\\', c]
  | .broken => ['\\']

/-! ## State -/

/-- The options in force at a place. -/
structure Options where
  ignoreCase : Bool
  multiline : Bool
  dotAll : Bool
  verbose : Bool
  ascii : Bool

def Options.none : Options := ⟨false, false, false, false, false⟩

def Options.casing (o : Options) : Option Casing :=
  if o.ignoreCase then some ⟨o.ascii⟩ else Option.none

/-- What is left to read, and what is known of the groups so far. -/
structure Progress where
  rest : List Token
  /-- The number of the characters before the rest. -/
  position : Nat
  /-- The options of the whole expression. -/
  options : Options
  unicode : Bool
  template : Bool
  /-- The width of each group, unknown while it is open; group 0 is the whole. -/
  widths : Array (Option Width)
  names : List (List Char × Nat)
  /-- While looking behind: the groups from this one on cannot be referred to. -/
  behind : Option Nat
  /-- The group numbers that conditions ask for, the last one first, with their places. -/
  asked : List (Nat × Nat)

abbrev Reader := StateT Progress (Except Failure)

def refuseAt (position : Nat) (message : String) : Reader α :=
  throw (.invalid ⟨message, some position⟩)

/-- Refuses the expression some characters before the rest. -/
def refuse (message : String) (back : Nat) : Reader α := do
  refuseAt ((← get).position - back) message

/-- Refuses a name that has been read with the character behind it. -/
def refuseName (message : String) (name : List Char) : Reader α :=
  refuse s!"{message} {String.ofList (quoted name)}" (name.length + 1)

def refuseEnd : Reader α :=
  refuse "unexpected end of pattern" 0

/-- Leaves the token at the front behind. -/
def advance : Reader Unit := do
  let s ← get
  let position := s.position + ((s.rest.head?.map fun t => t.chars.length).getD 0)
  match s.rest.drop 1 with
  | .broken :: _ => refuseAt position "bad escape (end of pattern)"
  | rest => set { s with rest, position }

def peek? : Reader (Option Token) := do
  return (← get).rest.head?

def take? : Reader (Option Token) := do
  let t ← peek?
  if t.isSome then advance
  return t

/-- Skips a token that is there. -/
def skip? (c : Char) : Reader Bool := do
  if (← peek?) == some (.plain c) then
    advance
    return true
  else return false

/-- Up to `count` characters of a kind. -/
def takeSome (ok : Char → Bool) : Nat → Reader (List Char)
  | 0 => return []
  | count + 1 => do
    match ← peek? with
    | some (.plain c) =>
      if ok c then
        advance
        return c :: (← takeSome ok count)
      else return []
    | _ => return []

def takeAll (ok : Char → Bool) : Reader (List Char) := do
  takeSome ok (← get).rest.length

/-- The text up to a closing character, at least one character long. -/
def nameUntil (stop : Char) (what : String) : Nat → List Char → Reader (List Char)
  | 0, _ => refuseEnd
  | fuel + 1, acc => do
    match ← take? with
    | none =>
      if acc.isEmpty then refuse s!"missing {what}" 0
      else refuse s!"missing {stop}, unterminated name" acc.length
    | some t =>
      if t = .plain stop then
        if acc.isEmpty then refuse s!"missing {what}" 1 else return acc
      else nameUntil stop what fuel (acc ++ t.chars)

def takeName (stop : Char) (what : String) : Reader (List Char) := do
  nameUntil stop what ((← get).rest.length + 1) []

def checkName (name : List Char) : Reader Unit := do
  if !isName name then refuseName "bad character in group name" name

/-! ## Groups -/

def openGroup (name : Option (List Char)) : Reader Nat := do
  let s ← get
  let index := s.widths.size
  match name with
  | none => set { s with widths := s.widths.push Option.none }
  | some n =>
    match s.names.lookup n with
    | some old =>
      let name := String.ofList (quoted n)
      refuse s!"redefinition of group name {name} as group {index}; was group {old}" (n.length + 1)
    | none => set { s with widths := s.widths.push Option.none, names := (n, index) :: s.names }
  return index

def closeGroup (index : Nat) (width : Width) : Reader Unit :=
  modify fun s => { s with widths := s.widths.setIfInBounds index (some width) }

/-- Refuses, while looking behind, groups that are open or belong to the same look. -/
def checkBehind (index : Nat) : Reader Unit := do
  let s ← get
  match s.behind with
  | none => return
  | some limit =>
    if (s.widths[index]?.join).isNone then refuse "cannot refer to an open group" 0
    else if limit ≤ index then
      refuse "cannot refer to group defined in the same lookbehind subpattern" 0

/-- The text of a closed group again, for a reference of so many characters. -/
def groupAgain (o : Options) (index back : Nat) : Reader Node := do
  match (← get).widths[index]? with
  | none => refuse s!"invalid group reference {index}" (back - 1)
  | some none => refuse "cannot refer to an open group" back
  | some (some w) =>
    checkBehind index
    return .again index o.casing w

def namedGroup (name : List Char) : Reader Nat := do
  match (← get).names.lookup name with
  | some n => return n
  | none => refuseName "unknown group name" name

/-! ## Escapes -/

def isOctal (c : Char) : Bool := '0' ≤ c && c ≤ '7'

def isHex (c : Char) : Bool := (Numeral.digitValue? 16 c).isSome

def valueOf (base : Nat) (cs : List Char) : Nat :=
  Numeral.ofDigits base (cs.map fun c => (Numeral.digitValue? base c).getD 0)

/-- The category that a letter names. -/
def category? (ascii : Bool) (c : Char) : Option ClassItem :=
  match c with
  | 'd' => some (.category .digit ascii false)
  | 'D' => some (.category .digit ascii true)
  | 's' => some (.category .space ascii false)
  | 'S' => some (.category .space ascii true)
  | 'w' => some (.category .word ascii false)
  | 'W' => some (.category .word ascii true)
  | _ => none

def anchor? (o : Options) (c : Char) : Option Anchor :=
  match c with
  | 'A' => some .textStart
  | 'Z' => some .textEnd
  | 'b' => some (.wordEdge o.ascii)
  | 'B' => some (.notWordEdge o.ascii)
  | _ => none

/-- The control character that a letter names. -/
def control? (c : Char) : Option Char :=
  match c with
  | 'a' => some (Char.ofNat 7)
  | 'f' => some (Char.ofNat 12)
  | 'n' => some '\n'
  | 'r' => some '\r'
  | 't' => some '\t'
  | 'v' => some (Char.ofNat 11)
  | '\\' => some '\\'
  | _ => none

/-- Refuses an escape that has been read whole. -/
def refuseEscape (message : String) (cs : List Char) : Reader α :=
  refuse s!"{message} {String.ofList cs}" cs.length

/-- Codes from this one on are no machine numbers. -/
def codeLimit : Nat := Nat.pow 2 31

/-- The character of the hexadecimal digits behind a letter. -/
def codeEscape (letter : Char) (ds : List Char) : Reader Char := do
  let n := valueOf 16 ds
  if codeLimit ≤ n then throw (.fault .overflow)
  else if 0x10FFFF < n then refuseEscape "bad escape" ('\\' :: letter :: ds)
  else return ofCode n

/-- A fixed number of hexadecimal digits as a character. -/
def hexEscape (letter : Char) (count : Nat) : Reader Char := do
  let ds ← takeSome isHex count
  if ds.length < count then refuseEscape "incomplete escape" ('\\' :: letter :: ds)
  else codeEscape letter ds

/-- The character of a name between braces. -/
def namedCharacter : Reader Char := do
  if ← skip? '\x7b' then
    let name ← takeName '\x7d' "character name"
    if name.any isHalf then refuseEscape "bad escape" ['\\', 'N']
    else
      match CharacterName.code? name with
      | some n => return ofCode n
      | none =>
        let shown := String.ofList (quoted name)
        refuse s!"undefined character name {shown}" (name.length + 4)
  else refuse "missing \x7b" 0

/-- The character of an escape that is neither a category nor a reference. -/
def literalEscape (c : Char) : Reader Char := do
  if c == 'x' then hexEscape c 2
  else if c == 'N' then namedCharacter
  else if c == 'u' then hexEscape c 4
  else if c == 'U' then hexEscape c 8
  else if isAsciiLetter c || isAsciiDigit c then refuseEscape "bad escape" ['\\', c]
  else return c

/-- The character of three octal digits at most. -/
def octalEscape (ds : List Char) : Reader Char := do
  let n := valueOf 8 ds
  let written := String.ofList ('\\' :: ds)
  if 0o377 < n then
    refuse s!"octal escape value {written} outside of range 0-0o377" (ds.length + 1)
  else return Char.ofNat n

/-- The character or the category of an escape in a set. -/
def classEscape (o : Options) (c : Char) : Reader (Char ⊕ ClassItem) := do
  if c == 'b' then return .inl (Char.ofNat 8)
  else if let some d := control? c then return .inl d
  else if let some k := category? o.ascii c then return .inr k
  else if isOctal c then
    let ds ← takeSome isOctal 2
    return .inl (← octalEscape (c :: ds))
  else return .inl (← literalEscape c)

def charNode (o : Options) (c : Char) : Node :=
  .char (.single false o.casing c)

/-- A reference to a group, or three octal digits. -/
def numberEscape (o : Options) (c : Char) : Reader Node := do
  match ← takeSome isAsciiDigit 1 with
  | [] => groupAgain o (valueOf 10 [c]) 2
  | d :: _ =>
    let third ← if isOctal c && isOctal d then takeSome isOctal 1 else pure []
    match third with
    | [] => groupAgain o (valueOf 10 [c, d]) 3
    | e :: _ => return charNode o (← octalEscape [c, d, e])

/-- Whether a node is an anchor, a repetition or something else. -/
inductive Kind where
  | anchor | repetition | other
  deriving DecidableEq

structure Part where
  node : Node
  kind : Kind

def escape (o : Options) (c : Char) : Reader Part := do
  if let some a := anchor? o c then return ⟨.anchor a, .anchor⟩
  else if let some k := category? o.ascii c then return ⟨.char (.ofItems false o.casing [k]), .other⟩
  else if let some d := control? c then return ⟨charNode o d, .other⟩
  else if c == '0' then
    return ⟨charNode o (Char.ofNat (valueOf 8 (← takeSome isOctal 2))), .other⟩
  else if isAsciiDigit c then return ⟨← numberEscape o c, .other⟩
  else return ⟨charNode o (← literalEscape c), .other⟩

/-! ## Sets -/

def itemOf : Char ⊕ ClassItem → ClassItem
  | .inl c => .range (codeOf c) (codeOf c)
  | .inr k => k

def tokenItem (o : Options) : Token → Reader (Char ⊕ ClassItem)
  | .plain c => return .inl c
  | .escaped c => classEscape o c
  | .broken => refuseEnd

/-- Refuses a range between two tokens that have been read. -/
def refuseRange (low high : Token) : Reader α :=
  let written := low.chars ++ '-' :: high.chars
  refuse s!"bad character range {String.ofList written}" written.length

/-- The items of a set that starts at a place, up to the bracket that closes it. -/
def setItems (start : Nat) (o : Options) : Nat → List ClassItem → Reader (List ClassItem)
  | 0, _ => refuseEnd
  | fuel + 1, acc => do
    match ← take? with
    | none => refuseAt start "unterminated character set"
    | some t =>
      if t = .plain ']' && !acc.isEmpty then return acc.reverse
      else
        let low ← tokenItem o t
        if ← skip? '-' then
          match ← take? with
          | none => refuseAt start "unterminated character set"
          | some t' =>
            if t' = .plain ']' then
              return (itemOf (.inl '-') :: itemOf low :: acc).reverse
            else
              let high ← tokenItem o t'
              match low, high with
              | .inl a, .inl b =>
                if codeOf b < codeOf a then refuseRange t t'
                else setItems start o fuel (.range (codeOf a) (codeOf b) :: acc)
              | _, _ => refuseRange t t'
        else setItems start o fuel (itemOf low :: acc)

/-- A set whose bracket has been read. -/
def setNode (o : Options) : Reader Node := do
  let start := (← get).position - 1
  let negated ← skip? '^'
  let items ← setItems start o ((← get).rest.length + 1) []
  match items.eraseDups with
  | [.range a b] =>
    if a = b then return .char (.single negated o.casing (ofCode a))
    else return .char (.ofItems negated o.casing items)
  | _ => return .char (.ofItems negated o.casing items)

/-! ## Repetitions -/

/-- Counts from this one on are too large. -/
def maxCount : Nat := Nat.pow 2 32 - 1

def countOf (ds : List Char) : Reader (Option Nat) := do
  if ds.isEmpty then return none
  else if Numeral.maxDigits < ds.length then throw (.fault .badValue)
  else
    let n := valueOf 10 ds
    if maxCount ≤ n then throw (.fault .overflow) else return some n

/-- The counts in braces whose opening one is read already; none when it stands for itself. -/
def braces : Reader (Option (Nat × Option Nat)) := do
  let start ← get
  if (← peek?) == some (.plain '\x7d') then return none
  else
    let low ← takeAll isAsciiDigit
    let high ← if ← skip? ',' then takeAll isAsciiDigit else pure low
    if ← skip? '\x7d' then
      let least ← countOf low
      let most ← countOf high
      let least := least.getD 0
      if most.any (· < least) then refuseAt start.position "min repeat greater than max repeat"
      else return some (least, most)
    else
      set start
      return none

/-- The counts that a repetition mark stands for. -/
def counts (c : Char) : Reader (Option (Nat × Option Nat)) := do
  if c == '?' then return some (0, some 1)
  else if c == '*' then return some (0, none)
  else if c == '+' then return some (1, none)
  else braces

def greed : Reader Greed := do
  if ← skip? '?' then return .lazy
  else if ← skip? '+' then return .possessive
  else return .greedy

/-- The last part repeated, for a repetition mark at a place. -/
def repeatLast (mark least : Nat) (most : Option Nat) (parts : List Part) :
    Reader (List Part) := do
  match parts with
  | [] => refuseAt mark "nothing to repeat"
  | p :: rest =>
    match p.kind with
    | .anchor => refuseAt mark "nothing to repeat"
    | .repetition => refuseAt mark "multiple repeat"
    | .other => return ⟨.repeated (← greed) least most p.node, .repetition⟩ :: rest

/-! ## Options -/

def isOption (c : Char) : Bool :=
  ['i', 'L', 'm', 's', 'x', 'a', 't', 'u'].contains c

def isScript (c : Char) : Bool :=
  c == 'a' || c == 'u' || c == 'L'

/-- Refuses what stands where something else is missing among option letters. -/
def refuseLetter (missing : String) : Option Token → Reader α
  | none => refuse missing 0
  | some (.plain c) => refuse (if isLetter c then "unknown flag" else missing) 1
  | some t => refuse missing t.chars.length

/-- Option letters that are turned on, and what ends them. -/
def lettersOn : Nat → List Char → Char → Reader (List Char × Char)
  | 0, _, _ => refuseEnd
  | fuel + 1, acc, c => do
    if c == 'L' then refuse "bad inline flags: cannot use 'L' flag with a str pattern" 0
    let acc := c :: acc
    if isScript c && acc.any (fun d => isScript d && d != c) then
      refuse "bad inline flags: flags 'a', 'u' and 'L' are incompatible" 0
    match ← take? with
    | some (.plain d) =>
      if d == ')' || d == '-' || d == ':' then return (acc, d)
      else if isOption d then lettersOn fuel acc d
      else refuseLetter "missing -, : or )" (some (.plain d))
    | t => refuseLetter "missing -, : or )" t

/-- Option letters that are turned off, up to the colon. -/
def lettersOff : Nat → List Char → Reader (List Char)
  | 0, _ => refuseEnd
  | fuel + 1, acc => do
    let missing := if acc.isEmpty then "missing flag" else "missing :"
    match ← take? with
    | some (.plain d) =>
      if d == ':' && !acc.isEmpty then return acc
      else if !isOption d then refuseLetter missing (some (.plain d))
      else if isScript d then
        refuse "bad inline flags: cannot turn off flags 'a', 'u' and 'L'" 0
      else lettersOff fuel (d :: acc)
    | t => refuseLetter missing t

def Options.with (o : Options) (on off : List Char) : Options :=
  let pick (c : Char) (old : Bool) : Bool := (old || on.contains c) && !off.contains c
  { ignoreCase := pick 'i' o.ignoreCase
    multiline := pick 'm' o.multiline
    dotAll := pick 's' o.dotAll
    verbose := pick 'x' o.verbose
    ascii := if on.contains 'a' then true else if on.contains 'u' then false else o.ascii }

/-- Options of the whole expression, or those of a group. -/
def optionLetters (c : Char) : Reader (Option (List Char × List Char)) := do
  let fuel := (← get).rest.length + 1
  let (on, stop) ← if c == '-' then pure ([], '-') else lettersOn fuel [] c
  if stop == ')' then
    modify fun s =>
      { s with
        options := s.options.with (on.filter (· != 'u')) []
        unicode := s.unicode || on.contains 'u'
        template := s.template || on.contains 't' }
    return none
  else
    if on.contains 't' then refuse "bad inline flags: cannot turn on global flag" 1
    let off ← if stop == '-' then lettersOff fuel [] else pure []
    if off.contains 't' then refuse "bad inline flags: cannot turn off global flag" 1
    if on.any off.contains then refuse "bad inline flags: flag turned on and off" 1
    return some (on, off)

/-! ## Expressions -/

/-- Groups may be nested this deep. -/
def maxNesting : Nat := 490

def joined (parts : List Part) : Node :=
  match parts with
  | [] => .empty
  | p :: rest => rest.foldl (fun acc q => .seq q.node acc) p.node

def isVerboseBlank (c : Char) : Bool :=
  Numeral.isAsciiBlank c

/-- Skips a comment that ends with the line. -/
def skipLine : Nat → Reader Unit
  | 0 => return
  | fuel + 1 => do
    match ← take? with
    | none => return
    | some t => if t = .plain '\n' then return else skipLine fuel

/-- Skips a comment in parentheses, the first of which is at a place. -/
def skipComment (start : Nat) : Nat → Reader Unit
  | 0 => refuseEnd
  | fuel + 1 => do
    match ← take? with
    | none => refuseAt start "missing ), unterminated comment"
    | some t => if t = .plain ')' then return else skipComment start fuel

/-- The end of a group whose opening parenthesis is at a place. -/
def expectClose (start : Nat) : Reader Unit := do
  if !(← skip? ')') then refuseAt start "missing ), unterminated subpattern"

/-- Groups are numbered below this. -/
def maxGroups : Nat := Nat.pow 2 30 - 1

/-- The group that a condition asks for. -/
def conditionGroup : Reader Nat := do
  let name ← takeName ')' "group name"
  if isName name then namedGroup name
  else
    match Numeral.integer? 10 name with
    | some (.ofNat n) =>
      if n = 0 then refuse "bad group number" (name.length + 1)
      else if maxGroups ≤ n then refuse s!"invalid group reference {n}" (name.length + 1)
      else
        modify fun s => { s with asked := (n, s.position - (name.length + 1)) :: s.asked }
        return n
    | _ => refuseName "bad character in group name" name

/-- Refuses what stands where the kind of a group is told. -/
def refuseExtension (front : String) : Option Token → Reader α
  | none => refuseEnd
  | some t =>
    let written := front.toList ++ t.chars
    refuse s!"unknown extension {String.ofList written}" written.length

mutual

/-- Alternatives; at the outermost level the options of the whole expression hold. -/
def alternatives (nesting : Nat) : Nat → Option Options → Bool → Reader Node
  | 0, _, _ => refuseEnd
  | fuel + 1, scope, first => do
    if maxNesting < nesting then throw (.fault .tooDeep)
    let o := scope.getD (← get).options
    let parts ← sequence nesting fuel o (first && scope.isNone) []
    if ← skip? '|' then
      let rest ← alternatives nesting fuel scope false
      return .either (joined parts) rest
    else return joined parts
termination_by structural fuel _ _ => fuel

/-- The parts up to a bar, a closing parenthesis or the end, last part first. -/
def sequence (nesting : Nat) : Nat → Options → Bool → List Part → Reader (List Part)
  | 0, _, _, _ => refuseEnd
  | fuel + 1, o, first, parts => do
    let here := (← get).position
    let fuel' := (← get).rest.length + 1
    match ← peek? with
    | none => return parts
    | some .broken => refuseEnd
    | some (.escaped c) =>
      advance
      let p ← escape o c
      sequence nesting fuel o first (p :: parts)
    | some (.plain c) =>
      if c == '|' || c == ')' then return parts
      else
        advance
        if o.verbose && isVerboseBlank c then sequence nesting fuel o first parts
        else if o.verbose && c == '#' then
          skipLine fuel'
          sequence nesting fuel o first parts
        else if c == '[' then
          let n ← setNode o
          sequence nesting fuel o first (⟨n, .other⟩ :: parts)
        else if c == '?' || c == '*' || c == '+' || c == '\x7b' then
          match ← counts c with
          | some (least, most) =>
            let parts ← repeatLast here least most parts
            sequence nesting fuel o first parts
          | none => sequence nesting fuel o first (⟨charNode o c, .other⟩ :: parts)
        else if c == '.' then
          let set : CharClass :=
            if o.dotAll then ⟨true, [], none⟩ else ⟨true, [.range 10 10], none⟩
          sequence nesting fuel o first (⟨.char set, .other⟩ :: parts)
        else if c == '^' then
          let a := if o.multiline then Anchor.lineStart else .textStart
          sequence nesting fuel o first (⟨.anchor a, .anchor⟩ :: parts)
        else if c == '$' then
          let a := if o.multiline then Anchor.lineEnd else .lastLineEnd
          sequence nesting fuel o first (⟨.anchor a, .anchor⟩ :: parts)
        else if c == '(' then
          match ← group nesting here fuel o first parts.isEmpty with
          | some p => sequence nesting fuel o first (p :: parts)
          | none =>
            let whole := (← get).options
            sequence nesting fuel (if first && parts.isEmpty then whole else o) first parts
        else sequence nesting fuel o first (⟨charNode o c, .other⟩ :: parts)
termination_by structural fuel _ _ _ => fuel

/-- A group whose opening parenthesis, at the place `start`, is read already; none for comments
    and options. -/
def group (nesting start : Nat) : Nat → Options → Bool → Bool → Reader (Option Part)
  | 0, _, _, _ => refuseEnd
  | fuel + 1, o, first, front => do
    if !(← skip? '?') then
      let p ← captured nesting start fuel o none
      return some p
    else
      match ← take? with
      | some (.plain c) =>
        if c == 'P' then
          if ← skip? '<' then
            let name ← takeName '>' "group name"
            checkName name
            let p ← captured nesting start fuel o (some name)
            return some p
          else if ← skip? '=' then
            let name ← takeName ')' "group name"
            checkName name
            let n ← namedGroup name
            return some ⟨← groupAgain o n (name.length + 1), .other⟩
          else refuseExtension "?P" (← take?)
        else if c == ':' then
          let n ← inner nesting start fuel o
          return some ⟨n, .other⟩
        else if c == '#' then
          skipComment start ((← get).rest.length + 1)
          return none
        else if c == '=' || c == '!' then
          let n ← inner nesting start fuel o
          return some ⟨.look false (c == '!') n, .other⟩
        else if c == '<' then
          match ← take? with
          | some (.plain d) =>
            if d == '=' || d == '!' then
              let old := (← get).behind
              if old.isNone then modify fun s => { s with behind := some s.widths.size }
              let n ← alternatives (nesting + 1) fuel (some o) false
              if old.isNone then modify fun s => { s with behind := none }
              expectClose start
              return some ⟨.look true (d == '!') n, .other⟩
            else refuseExtension "?<" (some (.plain d))
          | t => refuseExtension "?<" t
        else if c == '(' then
          let p ← conditional nesting start fuel o
          return some p
        else if c == '>' then
          let n ← inner nesting start fuel o
          return some ⟨.atomic n, .other⟩
        else if isOption c || c == '-' then
          match ← optionLetters c with
          | none =>
            if first && front then return none
            else refuseAt start "global flags not at the start of the expression"
          | some (on, off) =>
            let n ← inner nesting start fuel (o.with on off)
            return some ⟨n, .other⟩
        else refuseExtension "?" (some (.plain c))
      | t => refuseExtension "?" t
termination_by structural fuel _ _ _ => fuel

/-- The body of a group without a number. -/
def inner (nesting start : Nat) : Nat → Options → Reader Node
  | 0, _ => refuseEnd
  | fuel + 1, o => do
    let n ← alternatives (nesting + 1) fuel (some o) false
    expectClose start
    return n
termination_by structural fuel _ => fuel

/-- The body of a group with a number. -/
def captured (nesting start : Nat) : Nat → Options → Option (List Char) → Reader Part
  | 0, _, _ => refuseEnd
  | fuel + 1, o, name => do
    let index ← openGroup name
    let n ← inner nesting start fuel o
    closeGroup index n.width
    return ⟨.group index n, .other⟩
termination_by structural fuel _ _ => fuel

/-- A condition and its one or two branches. -/
def conditional (nesting start : Nat) : Nat → Options → Reader Part
  | 0, _ => refuseEnd
  | fuel + 1, o => do
    let n ← conditionGroup
    checkBehind n
    let yes ← sequence (nesting + 1) fuel o false []
    if ← skip? '|' then
      let no ← sequence (nesting + 1) fuel o false []
      if (← peek?) == some (.plain '|') then
        refuse "conditional backref with more than two branches" 0
      expectClose start
      return ⟨.choose n (joined yes) (joined no), .other⟩
    else
      expectClose start
      return ⟨.choose n (joined yes) .empty, .other⟩
termination_by structural fuel _ => fuel

end

/-- What is wrong with a node although it has been read: something is left behind it, a condition
    asks for an unknown group, or the node asks for something in vain. -/
def Progress.flaw? (s : Progress) (node : Node) : Option Flaw :=
  let unknown := s.asked.reverse.find? fun (n, _) => s.widths.size ≤ n
  if !s.rest.isEmpty then some ⟨"unbalanced parenthesis", some s.position⟩
  else match unknown with
    | some (n, position) => some ⟨s!"invalid group reference {n}", some position⟩
    | none => (node.flaw? s.template).map (⟨·, none⟩)

/-- The pattern that an expression stands for. -/
def parse (cs : List Char) : Except Failure Pattern := do
  let ts := tokens cs
  if ts.head? == some .broken then throw (.invalid ⟨"bad escape (end of pattern)", some 0⟩)
  let start : Progress := ⟨ts, 0, .none, false, false, #[none], [], none, []⟩
  let (node, s) ← (alternatives 0 (8 * ts.length + 8) none true).run start
  if s.options.ascii && s.unicode then throw (.fault .badValue)
  match s.flaw? node with
  | some flaw => throw (.invalid flaw)
  | none => return ⟨node, s.widths.size - 1⟩

end ApiJourney.Pattern
