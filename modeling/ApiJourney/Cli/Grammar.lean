-- SUMMARY: Reading the words of a command line as options and operands.
import ApiJourney.Number.Numeral
import ApiJourney.Text.Digit

/-!
# Words of a command line

A command line is a list of words. A word that starts with a dash names an option: in
full, by a beginning that only one option has, or, after a single dash, by a letter. The
value of an option is the next word or stands in the same one. Behind two dashes alone
all words are operands, and so are negative numbers and words with a space.
-/

namespace ApiJourney.Cli

/-! ## Options -/

inductive Kind where
  | flag
  /-- A wish for help, which ends all reading. -/
  | help
  | text
  | integer
  deriving DecidableEq

structure Opt where
  /-- All names, the one that it is known by last. -/
  names : List String
  kind : Kind
  deriving DecidableEq

def Opt.key (o : Opt) : String :=
  o.names.getLast?.getD ""

def Opt.takesValue (o : Opt) : Bool :=
  o.kind == .text || o.kind == .integer

/-- Why a command line is not carried out. -/
inductive Refusal where
  | usage
  | help
  deriving DecidableEq

inductive Given where
  | flag
  | text (s : String)
  | integer (n : Int)
  deriving DecidableEq

/-- What stands in a word behind the name of an option. -/
structure Attached where
  text : List Char
  /-- Whether there is an equals sign in front. -/
  isMarked : Bool

/-- An option in a word, the name that was used, and what the word has behind it. -/
structure Found where
  option : Opt
  name : String
  attached : Option Attached

inductive Mark where
  | operand
  | dashes
  | option (f : Found)
  | unknown

/-- Every name of every option. -/
def namesOf (opts : List Opt) : List (String × Opt) :=
  opts.flatMap fun o => o.names.map fun n => (n, o)

/-! ## Single words -/

/-- A dash and digits, with at most one point in front of the last of them. -/
def isNegativeNumber : List Char → Bool
  | '-' :: rest =>
    let body := if rest.getLast? == some '\n' then rest.dropLast else rest
    let whole := body.takeWhile Text.isDecimal
    match body.dropWhile Text.isDecimal with
    | [] => !whole.isEmpty
    | '.' :: fraction => !fraction.isEmpty && fraction.all Text.isDecimal
    | _ => false
  | _ => false

/-- What is in front of the first equals sign, and what is behind it. -/
def splitValue (word : List Char) : List Char × Option Attached :=
  match word.dropWhile (· != '=') with
  | [] => (word, none)
  | _ :: value => (word.takeWhile (· != '='), some ⟨value, true⟩)

/-- The options that a word may mean, beginning with its first characters. -/
def candidates (names : List (String × Opt)) (word : List Char) : List Found :=
  match word with
  | '-' :: '-' :: _ =>
    let (start, value) := splitValue word
    (names.filter fun (n, _) => start.isPrefixOf n.toList).map fun (n, o) => ⟨o, n, value⟩
  | _ =>
    names.filterMap fun (n, o) =>
      if n.toList == word.take 2 then some ⟨o, n, some ⟨word.drop 2, false⟩⟩
      else if word.isPrefixOf n.toList then some ⟨o, n, none⟩
      else none

/-- The option that a word names in full, with a value or not. -/
def named? (names : List (String × Opt)) (word : List Char) : Option Found :=
  match names.lookup (String.ofList word) with
  | some o => some ⟨o, String.ofList word, none⟩
  | none =>
    match splitValue word with
    | (_, none) => none
    | (name, value) => (names.lookup (String.ofList name)).map fun o => ⟨o, String.ofList name, value⟩

/-- What a word is. One that may mean several options is refused. -/
def classify (names : List (String × Opt)) (s : String) : Except Refusal Mark :=
  match s.toList with
  | '-' :: c :: rest =>
    let word := '-' :: c :: rest
    match named? names word with
    | some f => .ok (.option f)
    | none =>
      match candidates names word with
      | [] => .ok (if isNegativeNumber word || word.contains ' ' then .operand else .unknown)
      | [f] => .ok (.option f)
      | _ => .error .usage
  | _ => .ok .operand

/-- All words with what they are. -/
def marks (names : List (String × Opt)) : List String → Except Refusal (List (String × Mark))
  | [] => .ok []
  | s :: rest =>
    if s == "--" then .ok ((s, .dashes) :: rest.map fun r => (r, .operand))
    else do
      let m ← classify names s
      let ms ← marks names rest
      .ok ((s, m) :: ms)

/-! ## Options in order -/

/-- What is given by an option without a value. -/
def plainGiven (o : Opt) : Except Refusal (String × Given) :=
  if o.kind == .help then .error .help else .ok (o.key, .flag)

/-- What is given by an option with a value. -/
def valueGiven (o : Opt) (value : String) : Except Refusal (String × Given) :=
  if o.kind == .integer then
    match Numeral.integer? 10 value.toList with
    | some n => .ok (o.key, .integer n)
    | none => .error .usage
  else .ok (o.key, .text value)

/-- The options of one word in order: those without values, and the last one with its value
    if that is in the word. There is no last one when the word goes on with something else. -/
structure Cluster where
  flags : List Opt
  last : Option (Opt × Option String)

/-- Letters behind an option of one letter name further options, up to one with a value. -/
def letters (names : List (String × Opt)) (o : Opt) : List Char → Except Refusal Cluster
  | [] => .ok ⟨[], some (o, none)⟩
  | c :: rest =>
    if o.takesValue then .ok ⟨[], some (o, some (String.ofList (if c == '=' then rest else c :: rest)))⟩
    else if c == '=' || c == '-' then .error .usage
    else match names.lookup (String.ofList ['-', c]) with
      | none => .ok ⟨[o], none⟩
      | some next => do
        let more ← letters names next rest
        .ok { more with flags := o :: more.flags }

/-- The options of a word. -/
def optionsIn (names : List (String × Opt)) (f : Found) : Except Refusal Cluster :=
  match f.attached with
  | none => .ok ⟨[], some (f.option, none)⟩
  | some a =>
    if f.option.takesValue then .ok ⟨[], some (f.option, some (String.ofList a.text))⟩
    else if a.isMarked || f.name.toList.take 2 == ['-', '-'] then .error .usage
    else letters names f.option a.text

/-! ## Command lines -/

/-- How many operands there are: a single one, or a first one with all words behind it. -/
inductive Operands where
  | none
  | one
  | all
  deriving DecidableEq

/-- What was read: the options in order, the operands, and whether any word was left over. -/
structure Line where
  given : List (String × Given)
  operands : List String
  hasExtra : Bool

namespace Line

def add (l : Line) (g : String × Given) : Line :=
  { l with given := l.given ++ [g] }

def addFlags (l : Line) (flags : List Opt) : Except Refusal Line := do
  let gs ← flags.mapM plainGiven
  .ok (gs.foldl add l)

/-- Options without values, and a last one with its value. -/
def addAll (l : Line) (flags : List Opt) (o : Opt) (value : String) : Except Refusal Line := do
  let l ← l.addFlags flags
  let g ← valueGiven o value
  .ok (l.add g)

def extra (l : Line) : Line :=
  { l with hasExtra := true }

/-- Words without the two dashes in front. -/
def behindDashes : List (String × Mark) → List (String × Mark)
  | (_, .dashes) :: rest => rest
  | ms => ms

theorem length_behindDashes_le (ms : List (String × Mark)) :
    (behindDashes ms).length ≤ ms.length := by
  unfold behindDashes
  split <;> simp

/-- The words read from left to right. -/
def walk (names : List (String × Opt)) (expected : Operands) :
    Line → List (String × Mark) → Except Refusal Line
  | l, [] => .ok l
  | l, (s, .operand) :: rest =>
    match expected, l.operands with
    | .all, _ => .ok { l with operands := s :: rest.map Prod.fst }
    | .one, [] => walk names expected { l with operands := [s] } (behindDashes rest)
    | _, _ => walk names expected l.extra rest
  | l, (dashes, .dashes) :: rest =>
    match expected, l.operands, rest with
    | .all, _, rest => .ok { l with operands := dashes :: rest.map Prod.fst }
    | .one, [], (s, _) :: rest => walk names expected { l with operands := [s] } rest
    | _, _, rest => walk names expected l.extra rest
  | l, (_, .unknown) :: rest => walk names expected l.extra rest
  | l, (_, .option f) :: rest =>
    match optionsIn names f with
    | .error r => .error r
    | .ok ⟨flags, last⟩ =>
      match last, rest with
      | none, rest =>
        match l.addFlags flags with
        | .error r => .error r
        | .ok l => walk names expected l.extra rest
      | some (o, some v), rest =>
        match l.addAll flags o v with
        | .error r => .error r
        | .ok l => walk names expected l rest
      | some (o, none), rest =>
        if !o.takesValue then
          match l.addFlags (flags ++ [o]) with
          | .error r => .error r
          | .ok l => walk names expected l rest
        else match rest with
          | (v, .operand) :: rest =>
            match l.addAll flags o v with
            | .error r => .error r
            | .ok l => walk names expected l rest
          | _ => .error .usage
termination_by _ ms => ms.length
decreasing_by
  all_goals
    have := length_behindDashes_le rest
    simp only [wfParam, List.length_cons] at *
    omega

/-- A command line with the given options and operands. Words may be left over. -/
def read (opts : List Opt) (expected : Operands) (words : List String) : Except Refusal Line := do
  let names := namesOf opts
  let ms ← marks names words
  walk names expected ⟨[], [], false⟩ ms

/-- A line none of whose words is left over. -/
def complete (l : Line) : Except Refusal Line :=
  if l.hasExtra then .error .usage else .ok l

/-- What an option was given last. -/
def last? (l : Line) (key : String) : Option Given :=
  l.given.reverse.lookup key

def hasFlag (l : Line) (key : String) : Bool :=
  (l.last? key).isSome

def text? (l : Line) (key : String) : Option String :=
  match l.last? key with
  | some (.text s) => some s
  | _ => none

def integer? (l : Line) (key : String) : Option Int :=
  match l.last? key with
  | some (.integer n) => some n
  | _ => none

end Line

end ApiJourney.Cli
