/-! Civil dates of the proleptic Gregorian calendar. A year is counted from March, so that the
leap day is its last day; 400 years have 146097 days, of which each full century has 36524,
each full four years 1461 and each common year 365. -/
namespace Redelivery

structure CivilDate where
  year : Int
  month : Nat
  day : Nat
  deriving DecidableEq, Repr

namespace CivilDate

/-- Days from 1 March of the year 0 to 1 January 1970. -/
def epochOffset : Int := 719468

def ofDays (days : Int) : CivilDate :=
  let shifted := days + epochOffset
  let era := shifted.fdiv 146097
  let ofEra := (shifted.fmod 146097).toNat
  let century := min (ofEra / 36524) 3
  let ofCentury := ofEra - 36524 * century
  let cycle := ofCentury / 1461
  let ofCycle := ofCentury % 1461
  let annual := min (ofCycle / 365) 3
  let ofYear := ofCycle - 365 * annual
  let fromMarch := (5 * ofYear + 2) / 153
  let day := ofYear - (153 * fromMarch + 2) / 5 + 1
  let month := if fromMarch < 10 then fromMarch + 3 else fromMarch - 9
  let year : Int := 400 * era + ((100 * century + 4 * cycle + annual : Nat) : Int)
  ⟨if month ≤ 2 then year + 1 else year, month, day⟩

def toDays (date : CivilDate) : Int :=
  let year := if date.month ≤ 2 then date.year - 1 else date.year
  let fromMarch := if date.month ≤ 2 then date.month + 9 else date.month - 3
  let ofYear : Nat := (153 * fromMarch + 2) / 5 + date.day - 1
  365 * year + year.fdiv 4 - year.fdiv 100 + year.fdiv 400 + (ofYear : Int) - epochOffset

end CivilDate
end Redelivery
