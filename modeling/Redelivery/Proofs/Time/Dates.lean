import Redelivery.Time.Calendar

/-! The calendar keeps the order of days. A day is found by the year it lies in, counted from March,
and by its number in that year; the start of each such year is known, so that later days have later
dates and the day comes back from its date. -/
namespace Redelivery.CivilDate

/-- The year, counted from March, that a day lies in. -/
def marchYear (days : Int) : Int :=
  let shifted := days + epochOffset
  let ofEra := (shifted.fmod 146097).toNat
  let century := min (ofEra / 36524) 3
  let ofCentury := ofEra - 36524 * century
  400 * shifted.fdiv 146097 +
    ((100 * century + 4 * (ofCentury / 1461) + min (ofCentury % 1461 / 365) 3 : Nat) : Int)

def dayOfYear (days : Int) : Nat :=
  let ofEra := ((days + epochOffset).fmod 146097).toNat
  let ofCycle := (ofEra - 36524 * min (ofEra / 36524) 3) % 1461
  ofCycle - 365 * min (ofCycle / 365) 3

def ofMarch (year : Int) (number : Nat) : CivilDate :=
  let fromMarch := (5 * number + 2) / 153
  let month := if fromMarch < 10 then fromMarch + 3 else fromMarch - 9
  ⟨if month ≤ 2 then year + 1 else year, month, number - (153 * fromMarch + 2) / 5 + 1⟩

def newYear (year : Int) : Int :=
  365 * year + year.fdiv 4 - year.fdiv 100 + year.fdiv 400 - epochOffset

def Before (a b : CivilDate) : Prop :=
  a.year < b.year ∨ a.year = b.year ∧ (a.month < b.month ∨ a.month = b.month ∧ a.day < b.day)

theorem ofDays_eq_ofMarch (days : Int) :
    ofDays days = ofMarch (marchYear days) (dayOfYear days) := rfl

theorem newYear_eq (year : Int) :
    newYear year = 365 * year + year / 4 - year / 100 + year / 400 - 719468 := by
  simp only [newYear, epochOffset, Int.fdiv_eq_ediv_of_nonneg _ (by decide : (0 : Int) ≤ 4),
    Int.fdiv_eq_ediv_of_nonneg _ (by decide : (0 : Int) ≤ 100),
    Int.fdiv_eq_ediv_of_nonneg _ (by decide : (0 : Int) ≤ 400)]

theorem newYear_parts (era : Int) {century cycle annual : Nat} (centuries : century ≤ 3)
    (cycles : cycle ≤ 24) (years : annual ≤ 3) :
    newYear (400 * era + ((100 * century + 4 * cycle + annual : Nat) : Int)) =
      146097 * era + ((36524 * century + 1461 * cycle + 365 * annual : Nat) : Int) - 719468 := by
  rw [newYear_eq]
  generalize whole : 400 * era + ((100 * century + 4 * cycle + annual : Nat) : Int) = year
  have fours : year / 4 = 100 * era + 25 * century + cycle := by omega
  have hundreds : year / 100 = 4 * era + century := by omega
  have eras : year / 400 = era := by omega
  rw [fours, hundreds, eras]
  omega

/-- A day by its era, its century, its four years and its year, and what is left of it. -/
theorem exists_parts (days : Int) : ∃ (era : Int) (century cycle annual : Nat),
    century ≤ 3 ∧ cycle ≤ 24 ∧ annual ≤ 3 ∧
    marchYear days = 400 * era + ((100 * century + 4 * cycle + annual : Nat) : Int) ∧
    days + 719468 = 146097 * era +
      ((36524 * century + 1461 * cycle + 365 * annual + dayOfYear days : Nat) : Int) ∧
    dayOfYear days ≤ 365 ∧
    (dayOfYear days = 365 → annual = 3 ∧ (cycle = 24 → century = 3)) := by
  have shifted : (days + 719468).fmod 146097 = (days + 719468) % 146097 :=
    Int.fmod_eq_emod_of_nonneg _ (by decide)
  have era : (days + 719468).fdiv 146097 = (days + 719468) / 146097 :=
    Int.fdiv_eq_ediv_of_nonneg _ (by decide)
  simp only [marchYear, dayOfYear, epochOffset, shifted, era]
  generalize ofEra : ((days + 719468) % 146097).toNat = n
  have within : n < 146097 := by omega
  have counted : days + 719468 = 146097 * ((days + 719468) / 146097) + n := by omega
  generalize ofCentury : n - 36524 * min (n / 36524) 3 = m
  have centuries : m ≤ 36524 := by omega
  refine ⟨_, min (n / 36524) 3, m / 1461, min (m % 1461 / 365) 3, ?_, ?_, ?_, rfl, ?_, ?_, ?_⟩
  all_goals omega

theorem days_eq (days : Int) : days = newYear (marchYear days) + dayOfYear days := by
  obtain ⟨era, century, cycle, annual, centuries, cycles, years, year, day, -, -⟩ :=
    exists_parts days
  rw [year, newYear_parts _ centuries cycles years]
  omega

theorem newYear_lt {y z : Int} (earlier : y < z) : newYear y < newYear z := by
  simp only [newYear_eq]
  omega

theorem dayOfYear_le (days : Int) : dayOfYear days ≤ 365 := by
  obtain ⟨_, _, _, _, _, _, _, _, _, within, _⟩ := exists_parts days
  exact within

theorem newYear_succ (year : Int) : newYear year + 365 ≤ newYear (year + 1) := by
  simp only [newYear_eq]
  omega

/-- The day after a leap day is the first of March. -/
theorem newYear_succ_of_leap {days : Int} (last : dayOfYear days = 365) :
    newYear (marchYear days) + 366 = newYear (marchYear days + 1) := by
  obtain ⟨era, century, cycle, annual, centuries, cycles, years, year, -, -, leap⟩ :=
    exists_parts days
  obtain ⟨rfl, whole⟩ := leap last
  rw [year, newYear_parts _ centuries cycles years]
  by_cases full : cycle = 24
  · cases full
    cases whole rfl
    have next := newYear_parts (era + 1) (by decide : 0 ≤ 3) (by decide : 0 ≤ 24)
      (by decide : 0 ≤ 3)
    rw [show 400 * era + ((100 * 3 + 4 * 24 + 3 : Nat) : Int) + 1 =
      400 * (era + 1) + ((100 * 0 + 4 * 0 + 0 : Nat) : Int) by omega, next]
    omega
  · have next := newYear_parts era centuries (by omega : cycle + 1 ≤ 24)
      (by decide : 0 ≤ 3)
    rw [show 400 * era + ((100 * century + 4 * cycle + 3 : Nat) : Int) + 1 =
      400 * era + ((100 * century + 4 * (cycle + 1) + 0 : Nat) : Int) by omega, next]
    omega

theorem lt_newYear (days : Int) : days < newYear (marchYear days + 1) := by
  have counted := days_eq days
  have within := dayOfYear_le days
  by_cases last : dayOfYear days = 365
  · have leap := newYear_succ_of_leap last
    omega
  · have next := newYear_succ (marchYear days)
    omega

theorem lt_of_marchYear_lt {d e : Int} (earlier : marchYear d < marchYear e) : d < e := by
  have within := lt_newYear d
  have counted := days_eq e
  rcases Int.lt_or_eq_of_le (Int.add_one_le_of_lt earlier) with later | next
  · have years := newYear_lt later
    omega
  · rw [next] at within
    omega

theorem ofMarch_of_early {number : Nat} (year : Int) (early : number < 306) :
    ofMarch year number = ⟨year, (5 * number + 2) / 153 + 3,
      number - (153 * ((5 * number + 2) / 153) + 2) / 5 + 1⟩ := by
  have spring : (5 * number + 2) / 153 < 10 := by omega
  have after : ¬(5 * number + 2) / 153 + 3 ≤ 2 := by omega
  simp only [ofMarch, if_pos spring, if_neg after]

theorem ofMarch_of_late {number : Nat} (year : Int) (late : 306 ≤ number) (within : number ≤ 365) :
    ofMarch year number = ⟨year + 1, (5 * number + 2) / 153 - 9,
      number - (153 * ((5 * number + 2) / 153) + 2) / 5 + 1⟩ := by
  have winter : ¬(5 * number + 2) / 153 < 10 := by omega
  have before : (5 * number + 2) / 153 - 9 ≤ 2 := by omega
  simp only [ofMarch, if_neg winter, if_pos before]

theorem before_ofMarch {y z : Int} {n m : Nat} (within : n ≤ 365) (within' : m ≤ 365)
    (earlier : y < z ∨ y = z ∧ n < m) : (ofMarch y n).Before (ofMarch z m) := by
  rcases Nat.lt_or_ge n 306 with early | late <;> rcases Nat.lt_or_ge m 306 with early' | late'
  · rw [ofMarch_of_early y early, ofMarch_of_early z early']
    simp only [Before]
    omega
  · rw [ofMarch_of_early y early, ofMarch_of_late z late' within']
    simp only [Before]
    omega
  · rw [ofMarch_of_late y late within, ofMarch_of_early z early']
    simp only [Before]
    omega
  · rw [ofMarch_of_late y late within, ofMarch_of_late z late' within']
    simp only [Before]
    omega

theorem toDays_ofMarch {number : Nat} (year : Int) (within : number ≤ 365) :
    (ofMarch year number).toDays = newYear year + number := by
  rcases Nat.lt_or_ge number 306 with early | late
  · have after : ¬(5 * number + 2) / 153 + 3 ≤ 2 := by omega
    rw [ofMarch_of_early year early]
    simp only [toDays, newYear, if_neg after, Nat.add_sub_cancel]
    omega
  · have before : (5 * number + 2) / 153 - 9 ≤ 2 := by omega
    have months : (5 * number + 2) / 153 - 9 + 9 = (5 * number + 2) / 153 := by omega
    rw [ofMarch_of_late year late within]
    simp only [toDays, newYear, if_pos before, months, Int.add_sub_cancel]
    omega

theorem toDays_ofDays (days : Int) : (ofDays days).toDays = days := by
  rw [ofDays_eq_ofMarch, toDays_ofMarch _ (dayOfYear_le days), ← days_eq]

theorem ofDays_inj {d e : Int} : ofDays d = ofDays e ↔ d = e := by
  refine ⟨fun same => ?_, congrArg ofDays⟩
  rw [← toDays_ofDays d, same, toDays_ofDays]

/-- Later days have later dates. -/
theorem lt_iff_before (d e : Int) : d < e ↔ (ofDays d).Before (ofDays e) := by
  have before {d e : Int} (earlier : d < e) : (ofDays d).Before (ofDays e) := by
    rw [ofDays_eq_ofMarch, ofDays_eq_ofMarch]
    refine before_ofMarch (dayOfYear_le d) (dayOfYear_le e) ?_
    rcases Int.lt_trichotomy (marchYear d) (marchYear e) with first | same | last
    · exact .inl first
    · have counted := days_eq d
      have counted' := days_eq e
      rw [same] at counted
      exact .inr ⟨same, by omega⟩
    · exact absurd (lt_of_marchYear_lt last) (Int.not_lt.2 (Int.le_of_lt earlier))
  refine ⟨before, fun earlier => ?_⟩
  rcases Int.lt_trichotomy d e with order | rfl | order
  · exact order
  · simp [Before] at earlier
  · have later := before order
    simp only [Before] at earlier later
    omega

theorem month_le (days : Int) : (ofDays days).month ≤ 12 := by
  have within := dayOfYear_le days
  rw [ofDays_eq_ofMarch]
  simp only [ofMarch]
  split <;> omega

theorem day_le (days : Int) : (ofDays days).day ≤ 31 := by
  have within := dayOfYear_le days
  rw [ofDays_eq_ofMarch]
  simp only [ofMarch]
  omega

end Redelivery.CivilDate
