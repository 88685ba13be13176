-- SUMMARY: A small library of fake data.
import ApiJourney.Profile.Faker
import ApiJourney.Random.Twister
import ApiJourney.Value.Equality

/-!
# A small library of fake data

The library knows three providers and two locales. Each instance with a seed has random numbers
of its own, which its providers share; all other instances share those of the library. A call
that fails draws nothing.
-/

namespace ApiJourney

inductive Provider where
  | randomInt
  | randomDigit
  | email
  deriving DecidableEq

namespace Provider

/-! ## Arguments -/

/-- The names of the arguments that a provider takes, with their defaults. -/
def parameters : Provider → List (String × Value)
  | randomInt => [("min", .int 0), ("max", .int 9999), ("step", .int 1)]
  | randomDigit => []
  | email => [("safe", .bool true), ("domain", .null)]

/-- Named arguments put over positional ones; a name must be known and not be given twice. -/
def bindNamed (free : List String) (bound : List (String × Value)) :
    Entries → Except Fault (List (String × Value))
  | [] => .ok bound
  | (k, v) :: rest =>
    match (k.text?).filter free.contains with
    | some name => bindNamed (free.filter (· != name)) ((name, v) :: bound) rest
    | none => .error .wrongType

/-- The arguments of a call, in the order of the parameters. -/
def bind (p : Provider) (args : List Value) (named : Entries) : Except Fault (List Value) := do
  let names := p.parameters.map Prod.fst
  if names.length < args.length then .error .wrongType
  else
    let bound ← bindNamed (names.drop args.length) (names.zip args) named
    .ok (p.parameters.map fun (name, default) => (bound.lookup name).getD default)

/-! ## Numbers -/

/-- A bound as an integer: a whole double counts, a text that is a number does not. -/
def bound : Value → Except Fault Int
  | .int n => .ok n
  | .bool b => .ok (if b then 1 else 0)
  | .float x =>
    match Binary64.reading x with
    | .finite m e => if Binary64.isWhole x then .ok (Binary64.truncate m e) else .error .badValue
    | .infinite _ => .error .overflow
    | .nan => .error .badValue
  | .text _ => .error .badValue
  | .bytes _ => .error .badValue
  | _ => .error .wrongType

/-- One more than a number. -/
def successor : Value → Except Fault Value
  | .int n => .ok (.int (n + 1))
  | .bool b => .ok (.int (if b then 2 else 1))
  | .float x => .ok (.float (x + Binary64.ofScaled false 1 0))
  | _ => .error .wrongType

/-- How many steps there are from a start up to a stop. -/
def stepCount (start stop step : Int) : Except Fault Nat :=
  let n :=
    if 0 < step then Int.fdiv (stop - start + step - 1) step
    else if step < 0 then Int.fdiv (stop - start + step + 1) step
    else 0
  if 0 < n then .ok n.toNat else .error .badValue

/-- An integer on the way from a lower bound to an upper one. -/
def drawInt (min max step : Value) (t : Twister) : Except Fault (Value × Twister) := do
  let stop ← successor max
  let start ← bound min
  let stop ← bound stop
  let step ← bound step
  let count ← stepCount start stop step
  let (n, t) := t.below count
  .ok (.int (start + step * n), t)

/-! ## Calls -/

def drawDigit (t : Twister) : Value × Twister :=
  let (n, t) := t.between 0 9
  (.int n, t)

/-- A mail address in a domain that is kept for examples. -/
def drawEmail (t : Twister) : Value × Twister :=
  let (n, t) := t.between 0 9999
  (.text s!"user{n}@example.org", t)

/-- A call of a provider. A call that fails draws nothing. -/
def call (p : Provider) (args : List Value) (named : Entries) (t : Twister) :
    Except Fault (Value × Twister) := do
  let values ← p.bind args named
  match p, values with
  | randomInt, [min, max, step] => drawInt min max step t
  | randomInt, _ => .error .wrongType
  | randomDigit, _ => .ok (drawDigit t)
  | email, _ => .ok (drawEmail t)

end Provider

/-! ## The library -/

namespace Faker.Small

/-- What can be reached, with the number of the instance that it was reached from; instances
    without a seed have none. -/
inductive Member where
  | fake (instance? : Option Nat)
  | provider (instance? : Option Nat) (p : Provider)
  | constant

/-- Random numbers shared by the instances without a seed, and those of the others in the order
    in which they were made. -/
structure Memory where
  shared : Twister
  own : List Twister

def locales : List String := ["de_DE", "en_US"]

def providers : List (String × Provider) :=
  [("random_int", .randomInt), ("random_digit", .randomDigit), ("email", .email)]

def create (locale : Option String) (seed : Option Int) (s : Memory) :
    Except Fault Member × Memory :=
  if locale.all locales.contains then
    match seed with
    | none => (.ok (.fake none), s)
    | some n => (.ok (.fake (some s.own.length)), { s with own := s.own ++ [.ofSeed n] })
  else (.error .noAttribute, s)

def Member.named : Member → String → Except Fault Member
  | fake i, name =>
    match providers.lookup name with
    | some p => .ok (.provider i p)
    | none => if name == "locales" then .ok .constant else .error .noAttribute
  | provider _ _, name => if name == "__name__" then .ok .constant else .error .noAttribute
  | constant, _ => .error .noAttribute

def Member.isCallable : Member → Bool
  | provider _ _ => true
  | _ => false

/-- The random numbers of an instance. -/
def Memory.twister (s : Memory) (i : Option Nat) : Twister :=
  (i.bind (s.own[·]?)).getD s.shared

def Memory.keep (s : Memory) (i : Option Nat) (t : Twister) : Memory :=
  match i with
  | none => { s with shared := t }
  | some n => { s with own := s.own.set n t }

def call (m : Member) (args : List Value) (named : Entries) (s : Memory) :
    Except Fault Value × Memory :=
  match m with
  | .provider i p =>
    match p.call args named (s.twister i) with
    | .ok (v, t) => (.ok v, s.keep i t)
    | .error f => (.error f, s)
  | _ => (.error .wrongType, s)

/-- What the library remembers at first. -/
def atFirst (entropy : Int) : Memory := ⟨.ofSeed entropy, []⟩

end Faker.Small

/-- The small library. -/
def Faker.small : Faker where
  State := Small.Memory
  Member := Small.Member
  create := Small.create
  member := Small.Member.named
  isNull _ := false
  isCallable := Small.Member.isCallable
  call := Small.call

end ApiJourney
