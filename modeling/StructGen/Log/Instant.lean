import StructGen.Log.Fault
import StructGen.Value
/-!
# Instants

The time of a record, in microseconds since the start of 1970 in universal time, and its date on the
Gregorian calendar.
-/
namespace StructGen.Log

open Number

/-- A time in microseconds since the start of 1970. -/
structure Instant where
  microseconds : Int
deriving DecidableEq, Repr, Inhabited

namespace Instant

/-- The instant a whole number of seconds after the start of 1970. -/
def ofSeconds (n : Int) : Instant :=
  ⟨n * 1000000⟩

/-- The microseconds of `mantissa · 2 ^ exponent` seconds. The fraction of a second is multiplied in
binary floating point before it is rounded, and a tie goes to the even microsecond. -/
def microsecondsOf (mantissa : Nat) (exponent : Int) : Nat :=
  let q := Fraction.scaled mantissa exponent
  let fraction := q.numerator % q.denominator
  let product := roundMantissa (fraction * 1000000)
  q.numerator / q.denominator * 1000000 + roundDiv product q.denominator

/-- The instant of a binary number of seconds. -/
def ofBinary64 : Binary64 → Except LogFault Instant
  | .finite negative m e =>
    let n : Int := microsecondsOf m e
    .ok ⟨if negative then -n else n⟩
  | .infinite _ => .error .timeOverflow
  | .nan => .error .timeUndefined

/-- The instant a value tells: a number of seconds. -/
def ofValue : Value → Except LogFault Instant
  | .int n => .ok (ofSeconds n)
  | .bool b => .ok (ofSeconds (if b then 1 else 0))
  | .float x => ofBinary64 x
  | _ => .error .timeUntyped

/-- The whole seconds up to an instant. -/
def seconds (t : Instant) : Int :=
  t.microseconds.fdiv 1000000

/-- The microseconds since the last whole second. -/
def fraction (t : Instant) : Nat :=
  (t.microseconds.fmod 1000000).toNat

end Instant

/-- A day of the Gregorian calendar. -/
structure CalendarDay where
  year : Int
  month : Nat
  day : Nat
deriving DecidableEq, Repr, Inhabited

/-- The calendar day that is `n` days after the start of 1970. Days are counted in eras of 400 years
that start in March, so that a leap day ends its year. -/
def CalendarDay.ofDays (n : Int) : CalendarDay :=
  let z := n + 719468
  let era := z.fdiv 146097
  let dayOfEra := (z.fmod 146097).toNat
  let yearOfEra :=
    (dayOfEra - dayOfEra / 1460 + dayOfEra / 36524 - dayOfEra / 146096) / 365
  let dayOfYear := dayOfEra - (365 * yearOfEra + yearOfEra / 4 - yearOfEra / 100)
  let shifted := (5 * dayOfYear + 2) / 153
  let month := if shifted < 10 then shifted + 3 else shifted - 9
  { year := yearOfEra + era * 400 + if month ≤ 2 then 1 else 0
    month
    day := dayOfYear - (153 * shifted + 2) / 5 + 1 }

/-- A natural number with at least `width` digits. -/
def padded (width n : Nat) : String :=
  let ds := Nat.toDigits 10 n
  String.ofList (List.replicate (width - ds.length) '0' ++ ds)

namespace Instant

/-- The number of words of 32 bits. -/
def wordCount : Nat := 0x100000000

/-- The year can be counted from 1900 in words of 32 bits. -/
def isCountable (year : Int) : Bool :=
  (year - 1900).bmod wordCount = year - 1900

/-- The seconds fit into 64 bits. -/
def isTold (seconds : Int) : Bool :=
  -0x8000000000000000 ≤ seconds && seconds < 0x8000000000000000

/-- The day of an instant, if its seconds fit into 64 bits and its year has one to four digits. A
year that does not is told as a 32-bit word. -/
def day (t : Instant) : Except LogFault CalendarDay :=
  let s := t.seconds
  let day := CalendarDay.ofDays (s.fdiv 86400)
  if !isTold s then .error .timeOverflow
  else if !isCountable day.year then .error .yearUncountable
  else if 1 ≤ day.year ∧ day.year ≤ 9999 then .ok day
  else .error (.yearOutOfRange (day.year.bmod wordCount))

/-- The time of day, to the second. -/
def clock (t : Instant) : String :=
  let s := (t.seconds.fmod 86400).toNat
  padded 2 (s / 3600) ++ ":" ++ padded 2 (s / 60 % 60) ++ ":" ++ padded 2 (s % 60)

/-- Month and day of a date. -/
def monthDay (d : CalendarDay) : String :=
  "-" ++ padded 2 d.month ++ "-" ++ padded 2 d.day

/-- An instant in the form of ISO 8601; a fraction is shown when there is one. -/
def iso (t : Instant) : Except LogFault String := do
  let d ← t.day
  let fraction := if t.fraction = 0 then "" else "." ++ padded 6 t.fraction
  return padded 4 d.year.toNat ++ monthDay d ++ "T" ++ t.clock ++ fraction ++ "+00:00"

/-- An instant for people, to the second. -/
def plain (t : Instant) : Except LogFault String := do
  let d ← t.day
  return toString d.year ++ monthDay d ++ " " ++ t.clock

end Instant

end StructGen.Log
