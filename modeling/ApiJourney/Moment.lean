-- SUMMARY: Moments in time and the fresh values of a moment.
import ApiJourney.Identifier
import ApiJourney.Value.Basic

/-!
# Moments

A moment is counted in milliseconds since the start of 1970 in the UTC zone. Its date is
worked out in years that start in March, so that a leap day is the last day of its year;
400 such years have 146097 days. Identifiers and times differ each time that they are asked for;
they are supplied from outside, all for one moment.
-/

namespace ApiJourney

structure Moment where
  milliseconds : Nat
  deriving DecidableEq

structure Date where
  year : Nat
  month : Nat
  day : Nat
  deriving DecidableEq

namespace Date

/-- Days from the start of March of the year 0 to the start of 1970. -/
def daysBefore1970 : Nat := 719468

/-- The date that is some days after the start of 1970. -/
def ofDays (days : Nat) : Date :=
  let n := days + daysBefore1970
  let inEra := n % 146097
  let yearOfEra := (inEra - inEra / 1460 + inEra / 36524 - inEra / 146096) / 365
  let inYear := inEra - (365 * yearOfEra + yearOfEra / 4 - yearOfEra / 100)
  let monthFromMarch := (5 * inYear + 2) / 153
  let day := inYear - (153 * monthFromMarch + 2) / 5 + 1
  let month := if monthFromMarch < 10 then monthFromMarch + 3 else monthFromMarch - 9
  ⟨yearOfEra + n / 146097 * 400 + (if month ≤ 2 then 1 else 0), month, day⟩

end Date

namespace Moment

/-- `n` in at least `width` digits. -/
def padded (width n : Nat) : String :=
  let digits := Nat.toDigits 10 n
  String.ofList (List.replicate (width - digits.length) '0' ++ digits)

def seconds (m : Moment) : Nat := m.milliseconds / 1000

/-- Date and time of day, with three places of the second. -/
def iso (m : Moment) : String :=
  let d := Date.ofDays (m.seconds / 86400)
  let time := m.seconds % 86400
  String.join [
    padded 4 d.year, "-", padded 2 d.month, "-", padded 2 d.day, "T",
    padded 2 (time / 3600), ":", padded 2 (time / 60 % 60), ":", padded 2 (time % 60), ".",
    padded 3 (m.milliseconds % 1000), "Z"]

/-- Steps of 100 ns from the reform of the calendar in 1582 to the moment. -/
def ticks (m : Moment) : Nat :=
  m.milliseconds * 10000 + 0x01B21DD213814000

end Moment

/-! ## Fresh values -/

structure Fresh where
  /-- A random identifier. -/
  uuid : String
  /-- An identifier made from the time. -/
  timeUuid : String
  /-- Milliseconds since the epoch. -/
  milliseconds : Value
  seconds : Value
  /-- The time in the UTC zone as text. -/
  iso : String

/-- The fresh values of a moment; `bits` and `node` are random. -/
def Fresh.ofMoment (m : Moment) (bits node : Nat) : Fresh where
  uuid := Identifier.ofBits bits
  timeUuid := Identifier.ofTicks m.ticks node
  milliseconds := .int m.milliseconds
  seconds := .int m.seconds
  iso := m.iso

end ApiJourney
