import Redelivery.Time.Calendar
import Redelivery.Whole

/-! Moments in UTC and the text in which they travel in headers. A leap second is second 59 with
a billion nanoseconds or more and is written as second 60. The text has microseconds, cut and
not rounded, and every field is filled up with zeros. -/
namespace Redelivery

/-- Seconds since the start of 1970, and nanoseconds, which reach two billion in a leap second. -/
structure Instant where
  seconds : Int
  nanos : Nat
  deriving DecidableEq, Repr

namespace Instant

def truncated (t : Instant) : Instant := { t with nanos := t.nanos / 1000 * 1000 }

/-- Four digits from year 0 to 9999; other years carry a sign. -/
def yearText (year : Int) : List Char :=
  if 0 ≤ year ∧ year ≤ 9999 then Whole.padded 4 year.toNat
  else if year < 0 then '-' :: Whole.padded 4 year.natAbs
  else '+' :: Whole.padded 4 year.natAbs

/-- Year, month, day, hour, minute, second and microseconds: "2014-01-01 00:00:00:000000 Z". -/
def wireChars (t : Instant) : List Char :=
  let date := CivilDate.ofDays (t.seconds.fdiv 86400)
  let ofDay := (t.seconds.fmod 86400).toNat
  let second := ofDay % 60 + t.nanos / 1000000000
  yearText date.year ++ '-' :: Whole.padded 2 date.month ++ '-' :: Whole.padded 2 date.day ++
  ' ' :: Whole.padded 2 (ofDay / 3600) ++ ':' :: Whole.padded 2 (ofDay / 60 % 60) ++
  ':' :: Whole.padded 2 second ++ ':' :: Whole.padded 6 (t.nanos % 1000000000 / 1000) ++ [' ', 'Z']

def wireText (t : Instant) : String := String.ofList t.wireChars

end Instant
end Redelivery
