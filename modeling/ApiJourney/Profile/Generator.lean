-- SUMMARY: Generators of values for synthetic users.
import ApiJourney.Schema.Record
import ApiJourney.Value.Basic

/-!
# Generators

A generator makes one value for each user that is drawn: a unique identifier, a
time, a random number or text, the next member of a sequence, or what a provider
of fake data gives.
-/

namespace ApiJourney

open Schema

/-! ## Options -/

inductive TimeFormat where
  | milliseconds | seconds | iso
  deriving DecidableEq

def TimeFormat.name : TimeFormat → String
  | milliseconds => "epoch_ms"
  | seconds => "epoch_s"
  | iso => "iso"

def TimeFormat.options : List (String × TimeFormat) :=
  [milliseconds, seconds, iso].map fun f => (f.name, f)

/-- A number between two bounds, or a text over a character set. -/
structure RandomOptions where
  min : Option Int
  max : Option Int
  length : Option Int
  charset : Option String

namespace RandomOptions

def none : RandomOptions := ⟨Option.none, Option.none, Option.none, Option.none⟩

def defaultMin : Int := 0
def defaultMax : Int := 100
def defaultLength : Nat := 10

def low (o : RandomOptions) : Int := o.min.getD defaultMin
def high (o : RandomOptions) : Int := o.max.getD defaultMax

/-- How many characters are drawn; a length of zero counts as none. -/
def drawnLength (o : RandomOptions) : Nat :=
  ((o.length.filter (· != 0)).map Int.toNat).getD defaultLength

/-- The bounds count only when there is no character set. -/
def checkRange (o : RandomOptions) : Verdict RandomOptions :=
  if o.charset.isNone && o.high < o.low then
    .refuse (.rule s!"random generator min ({o.low}) cannot be greater than max ({o.high})")
  else .accepted o

def positive (v : Value) : Verdict Int :=
  (strictInteger v).andThen fun n => if 1 ≤ n then .accepted n else .refuse (.notAtLeast 1)

def read (v : Value) : Verdict RandomOptions :=
  (record "RandomOptions" v fun es =>
    RandomOptions.mk
      <$> optional es ["min"] strictInteger
      <*> optional es ["max"] strictInteger
      <*> optional es ["length"] positive
      <*> optional es ["charset"] nonEmptyText).andThen checkRange

def toValue (o : RandomOptions) : Value :=
  .object [
    ("min", .ofOption .int o.min),
    ("max", .ofOption .int o.max),
    ("length", .ofOption .int o.length),
    ("charset", .ofOption .text o.charset)]

end RandomOptions

structure SequenceOptions where
  start : Value
  step : Value

namespace SequenceOptions

def ones : SequenceOptions := ⟨.int 1, .int 1⟩

def read (v : Value) : Verdict SequenceOptions :=
  record "SequenceOptions" v fun es =>
    SequenceOptions.mk
      <$> withDefault es ["start"] (.int 1) strictNumber
      <*> withDefault es ["step"] (.int 1) strictNumber

def toValue (o : SequenceOptions) : Value :=
  .object [("start", o.start), ("step", o.step)]

end SequenceOptions

/-- A call of a provider of fake data. -/
structure FakerOptions where
  method : String
  args : List Value
  kwargs : Entries
  locale : Option String

namespace FakerOptions

def read (v : Value) : Verdict FakerOptions :=
  record "FakerOptions" v fun es =>
    FakerOptions.mk
      <$> required es ["method"] nonEmptyText
      <*> withDefault es ["args"] [] (list anything)
      <*> withDefault es ["kwargs"] [] values
      <*> optional es ["locale"] text

def toValue (o : FakerOptions) : Value :=
  .object [
    ("method", .text o.method),
    ("args", .list o.args),
    ("kwargs", .dict o.kwargs),
    ("locale", .ofOption .text o.locale)]

end FakerOptions

/-! ## Generators -/

inductive Generator where
  | uuid (version : Int)
  | timestamp (format : TimeFormat)
  | random (options : RandomOptions)
  | sequence (options : SequenceOptions)
  | faker (options : FakerOptions)

namespace Generator

/-- A record that holds nothing but options, which may be left out. -/
def withOptions (name : String) (default : α) (read : Value → Verdict α) (v : Value) : Verdict α :=
  record name v fun es => withDefault es ["options"] default read

def readUuid (v : Value) : Verdict Int :=
  record "UuidOptions" v fun es => withDefault es ["version"] 4 (literalInteger [1, 4])

def readTimestamp (v : Value) : Verdict TimeFormat :=
  record "TimestampOptions" v fun es =>
    withDefault es ["format"] .milliseconds (literalWord TimeFormat.options)

def readers : List (String × (Value → Verdict Generator)) :=
  [("uuid", fun v => uuid <$> withOptions "UuidGenerator" 4 readUuid v),
   ("timestamp", fun v => timestamp <$> withOptions "TimestampGenerator" .milliseconds readTimestamp v),
   ("random", fun v => random <$> withOptions "RandomGenerator" .none RandomOptions.read v),
   ("sequence", fun v => sequence <$> withOptions "SequenceGenerator" .ones SequenceOptions.read v),
   ("faker", fun v =>
      faker <$> record "FakerGenerator" v fun es => required es ["options"] FakerOptions.read)]

def read : Value → Verdict Generator :=
  tagged "type" readers

def typeName : Generator → String
  | uuid _ => "uuid"
  | timestamp _ => "timestamp"
  | random _ => "random"
  | sequence _ => "sequence"
  | faker _ => "faker"

def optionsValue : Generator → Value
  | uuid n => .object [("version", .int n)]
  | timestamp f => .object [("format", .text f.name)]
  | random o => o.toValue
  | sequence o => o.toValue
  | faker o => o.toValue

def toValue (g : Generator) : Value :=
  .object [("type", .text g.typeName), ("options", g.optionsValue)]

end Generator

end ApiJourney
