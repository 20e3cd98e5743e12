import Mathlib.Algebra.Group.Nat.Defs
import Redelivery.Proofs.Time.Dates
import Redelivery.Proofs.Text.Encoding
import Redelivery.Proofs.Text.Numerals
import Redelivery.Time.Instant

/-! Wire texts sort like the moments they tell of. A text is a row of numbers, each filled up to the
width of its place and followed by a mark. Rows of one layout compare as their numbers do, and the
numbers of two moments compare as the moments do. Nothing is lost but what is below a
microsecond. -/
namespace Redelivery

theorem append_lt_append_iff {a b : List Char} (even : a.length = b.length) (c d : List Char) :
    a ++ c < b ++ d ↔ a < b ∨ a = b ∧ c < d := by
  induction a generalizing b with
  | nil =>
    cases List.length_eq_zero_iff.1 even.symm
    simp
  | cons x a ih =>
    cases b with
    | nil => cases even
    | cons y b =>
      rw [List.cons_append, List.cons_append, List.cons_lt_cons_iff, List.cons_lt_cons_iff,
        ih (Nat.succ.inj even), List.cons.injEq, and_or_left, or_assoc, and_assoc]

namespace Whole

theorem padded_one {n : Nat} (small : n < 10) : padded 1 n = [digitChar n] := by
  rw [padded, decimal_of_lt small]
  rfl

theorem padded_succ (width n : Nat) :
    padded (width + 1 + 1) n = padded (width + 1) (n / 10) ++ [digitChar (n % 10)] := by
  by_cases small : n < 10
  · rw [Nat.div_eq_of_lt small, Nat.mod_eq_of_lt small, padded, padded, decimal_of_lt small,
      decimal_of_lt (by decide : 0 < 10), List.length_singleton, List.length_singleton,
      Nat.add_sub_cancel, Nat.add_sub_cancel, List.replicate_succ']
    rfl
  · have last : decimal n = decimal (n / 10) ++ [digitChar (n % 10)] := by
      rw [decimal, if_neg small]
    rw [padded, padded, last, List.length_append, List.length_singleton, Nat.add_sub_add_right,
      List.append_assoc]

theorem digits_padded (width n : Nat) : ∀ c ∈ padded width n, isDigit c = true := by
  intro c member
  rcases List.mem_append.1 member with zero | digit
  · rw [(List.mem_replicate.1 zero).2]
    rfl
  · exact decimal_digits n c digit

theorem extended_padded (width n : Nat) : extended 0 (padded width n) = n := by
  have zeros (k : Nat) : extended 0 (List.replicate k '0') = 0 := by
    induction k with
    | zero => rfl
    | succ k ih => exact ih
  have zero := zeros (width - (decimal n).length)
  rw [extended] at zero
  rw [padded, extended, List.foldl_append, zero]
  exact extended_decimal n

theorem padded_inj {width n m : Nat} : padded width n = padded width m ↔ n = m := by
  refine ⟨fun same => ?_, fun same => same ▸ rfl⟩
  rw [← extended_padded width n, same, extended_padded]

section places
variable {width n m : Nat}

theorem div_lt_pow (fits : n < 10 ^ (width + 1 + 1)) : n / 10 < 10 ^ (width + 1) := by
  rw [Nat.pow_succ] at fits
  omega

theorem length_padded (fits : n < 10 ^ (width + 1)) :
    (padded (width + 1) n).length = width + 1 := by
  induction width generalizing n with
  | zero => rw [padded_one (by simpa using fits), List.length_singleton]
  | succ width ih =>
    rw [padded_succ, List.length_append, ih (div_lt_pow fits), List.length_singleton]

theorem padded_lt_padded (fits : n < 10 ^ (width + 1)) (fits' : m < 10 ^ (width + 1)) :
    padded (width + 1) n < padded (width + 1) m ↔ n < m := by
  have digit : ∀ a < 10, ∀ b < 10, ([digitChar a] < [digitChar b] ↔ a < b) := by decide
  induction width generalizing n m with
  | zero =>
    rw [Nat.pow_one] at fits fits'
    rw [padded_one fits, padded_one fits']
    exact digit n fits m fits'
  | succ width ih =>
    have higher := div_lt_pow fits
    have higher' := div_lt_pow fits'
    have even := (length_padded higher).trans (length_padded higher').symm
    have last := digit _ (Nat.mod_lt n (by decide)) _ (Nat.mod_lt m (by decide))
    have first : padded (width + 1) (n / 10) < padded (width + 1) (m / 10) ↔ n / 10 < m / 10 :=
      ih higher higher'
    rw [padded_succ, padded_succ, append_lt_append_iff even, first, padded_inj, last]
    omega

end places
end Whole

namespace Instant

/-- A row of numbers, each in a place of some width with a mark behind it. -/
def laidOut : List (Nat × List Char) → List Nat → List Char
  | (width, mark) :: layout, n :: fields => Whole.padded width n ++ mark ++ laidOut layout fields
  | _, _ => []

def readFields : List (Nat × List Char) → List Char → List Nat
  | [], _ => []
  | (width, mark) :: layout, cs =>
    Whole.extended 0 (cs.take width) :: readFields layout (cs.drop (width + mark.length))

def span : List (Nat × List Char) → Nat
  | [] => 0
  | (width, mark) :: layout => width + mark.length + span layout

inductive Fits : List (Nat × List Char) → List Nat → Prop where
  | nil : Fits [] []
  | cons {width n : Nat} {mark : List Char} {layout : List (Nat × List Char)} {fields : List Nat}
    (fits : n < 10 ^ (width + 1)) (rest : Fits layout fields) :
    Fits ((width + 1, mark) :: layout) (n :: fields)

section rows
variable {layout : List (Nat × List Char)} {fields fields' : List Nat}

theorem length_laidOut (fits : Fits layout fields) :
    (laidOut layout fields).length = span layout := by
  induction fits with
  | nil => rfl
  | cons fits _ ih =>
    rw [laidOut, List.length_append, List.length_append, Whole.length_padded fits, ih, span]

theorem ascii_laidOut (marks : ∀ place ∈ layout, ∀ c ∈ place.2, c.toNat ≤ 127) :
    ∀ c ∈ laidOut layout fields, c.toNat ≤ 127 := by
  induction layout generalizing fields with
  | nil => simp [laidOut]
  | cons place layout ih =>
    obtain ⟨mark, marks⟩ := List.forall_mem_cons.1 marks
    cases fields with
    | nil => simp [laidOut]
    | cons n fields =>
      intro c member
      rcases List.mem_append.1 member with front | later
      · rcases List.mem_append.1 front with digit | marked
        · have small := Whole.digits_padded _ n c digit
          simp only [Whole.isDigit, Bool.and_eq_true, decide_eq_true_eq] at small
          omega
        · exact mark c marked
      · exact ih marks c later

theorem readFields_laidOut (fits : Fits layout fields) :
    readFields layout (laidOut layout fields) = fields := by
  induction fits with
  | nil => rfl
  | @cons width n mark layout fields fits _ ih =>
    have wide := Whole.length_padded fits
    have place : (Whole.padded (width + 1) n ++ mark).length = width + 1 + mark.length := by
      rw [List.length_append, wide]
    rw [laidOut, readFields, List.drop_left' place, ih, List.append_assoc, List.take_left' wide,
      Whole.extended_padded]

theorem laidOut_lt_iff (fits : Fits layout fields) (fits' : Fits layout fields') :
    laidOut layout fields < laidOut layout fields' ↔ fields < fields' := by
  induction fits generalizing fields' with
  | nil =>
    cases fits'
    simp [laidOut]
  | @cons width n mark layout fields fits _ ih =>
    cases fits' with
    | @cons _ m _ _ fields' fits' rest' =>
      have even := (Whole.length_padded fits).trans (Whole.length_padded fits').symm
      rw [laidOut, laidOut, List.append_assoc, List.append_assoc, append_lt_append_iff even,
        append_lt_append_iff rfl, Whole.padded_lt_padded fits fits', Whole.padded_inj,
        List.cons_lt_cons_iff, ih rest', or_iff_right (List.lt_irrefl mark),
        and_iff_right (rfl : mark = mark)]

end rows

/-- Places and marks of "2014-01-01 00:00:00:000000 Z". -/
def wireLayout : List (Nat × List Char) :=
  [(4, ['-']), (2, ['-']), (2, [' ']), (2, [':']), (2, [':']), (2, [':']), (6, [' ', 'Z'])]

def year (t : Instant) : Int := (CivilDate.ofDays (t.seconds.fdiv 86400)).year

def wireFields (t : Instant) : List Nat :=
  let date := CivilDate.ofDays (t.seconds.fdiv 86400)
  let ofDay := (t.seconds.fmod 86400).toNat
  [date.year.toNat, date.month, date.day, ofDay / 3600, ofDay / 60 % 60,
    ofDay % 60 + t.nanos / 1000000000, t.nanos % 1000000000 / 1000]

/-- A moment in the years 0 to 9999. Nanoseconds of a second and more make second 59 a leap
second. -/
structure Datable (t : Instant) : Prop where
  year_nonneg : 0 ≤ t.year
  year_le : t.year ≤ 9999
  nanos_lt : t.nanos < 2000000000
  leap : 1000000000 ≤ t.nanos → t.seconds % 60 = 59

def Before (t u : Instant) : Prop :=
  t.seconds < u.seconds ∨ t.seconds = u.seconds ∧ t.nanos < u.nanos

def ofFields : List Nat → Instant
  | [year, month, day, hour, minute, second, micros] =>
    { seconds := 86400 * CivilDate.toDays ⟨year, month, day⟩ +
        ((3600 * hour + 60 * minute + min second 59 : Nat) : Int)
      nanos := 1000000000 * (second / 60) + 1000 * micros }
  | _ => ⟨0, 0⟩

def ofWireText (text : String) : Instant := ofFields (readFields wireLayout text.toList)

section moments
variable {t u : Instant}

theorem wireText_eq (datable : t.Datable) :
    t.wireText = String.ofList (laidOut wireLayout t.wireFields) := by
  have fourDigits : 0 ≤ t.year ∧ t.year ≤ 9999 := ⟨datable.year_nonneg, datable.year_le⟩
  rw [year] at fourDigits
  simp [wireText, wireChars, wireLayout, wireFields, laidOut, yearText, fourDigits]

theorem fits_wireFields (datable : t.Datable) : Fits wireLayout t.wireFields := by
  have leap := datable.leap
  have below := datable.nanos_lt
  have fourDigits := datable.year_le
  have month := CivilDate.month_le (t.seconds.fdiv 86400)
  have day := CivilDate.day_le (t.seconds.fdiv 86400)
  have ofDay : t.seconds.fmod 86400 = t.seconds % 86400 := Int.fmod_eq_emod_of_nonneg _ (by decide)
  rw [year] at fourDigits
  rw [wireFields, ofDay]
  refine .cons ?_ (.cons ?_ (.cons ?_ (.cons ?_ (.cons ?_ (.cons ?_ (.cons ?_ .nil))))))
  all_goals omega

theorem ofFields_wireFields (datable : t.Datable) : ofFields t.wireFields = t.truncated := by
  have leap := datable.leap
  have below := datable.nanos_lt
  have days : t.seconds.fdiv 86400 = t.seconds / 86400 := Int.fdiv_eq_ediv_of_nonneg _ (by decide)
  have ofDay : t.seconds.fmod 86400 = t.seconds % 86400 := Int.fmod_eq_emod_of_nonneg _ (by decide)
  have date := CivilDate.toDays_ofDays (t.seconds.fdiv 86400)
  have nonneg : ((CivilDate.ofDays (t.seconds.fdiv 86400)).year.toNat : Int) =
      (CivilDate.ofDays (t.seconds.fdiv 86400)).year := Int.toNat_of_nonneg datable.year_nonneg
  rw [wireFields, ofFields, nonneg, date, truncated, days, ofDay, mk.injEq]
  constructor
  · omega
  · omega

/-- The moment comes back from its text, down to the microsecond. -/
theorem ofWireText_wireText (datable : t.Datable) : ofWireText t.wireText = t.truncated := by
  rw [ofWireText, wireText_eq datable, String.toList_ofList,
    readFields_laidOut (fits_wireFields datable), ofFields_wireFields datable]

theorem dateFields_lt_iff {date date' : CivilDate} (nonneg : 0 ≤ date.year)
    (nonneg' : 0 ≤ date'.year) (time time' : List Nat) :
    date.year.toNat :: date.month :: date.day :: time <
        date'.year.toNat :: date'.month :: date'.day :: time' ↔
      date.Before date' ∨ date = date' ∧ time < time' := by
  obtain ⟨year, month, day⟩ := date
  obtain ⟨year', month', day'⟩ := date'
  have earlier : year.toNat < year'.toNat ↔ year < year' := by
    dsimp only at nonneg nonneg'
    omega
  have same : year.toNat = year'.toNat ↔ year = year' := by
    dsimp only at nonneg nonneg'
    omega
  simp only [List.cons_lt_cons_iff, CivilDate.Before, CivilDate.mk.injEq, earlier, same,
    and_or_left, and_assoc, or_assoc]

theorem timeFields_lt_iff {n m a b : Nat} (leap : 1000000000 ≤ a → n % 60 = 59)
    (leap' : 1000000000 ≤ b → m % 60 = 59) (below : a < 2000000000) (below' : b < 2000000000) :
    [n / 3600, n / 60 % 60, n % 60 + a / 1000000000, a % 1000000000 / 1000] <
        [m / 3600, m / 60 % 60, m % 60 + b / 1000000000, b % 1000000000 / 1000] ↔
      n < m ∨ n = m ∧ a / 1000 < b / 1000 := by
  simp only [List.cons_lt_cons_iff, List.lt_irrefl, and_false, or_false]
  omega

theorem Datable.leap_second (datable : t.Datable) (late : 1000000000 ≤ t.nanos) :
    (t.seconds.fmod 86400).toNat % 60 = 59 := by
  have second := datable.leap late
  rw [Int.fmod_eq_emod_of_nonneg _ (by decide)]
  omega

theorem wireFields_lt_iff (datable : t.Datable) (datable' : u.Datable) :
    t.wireFields < u.wireFields ↔ t.truncated.Before u.truncated := by
  have time := timeFields_lt_iff datable.leap_second datable'.leap_second datable.nanos_lt
    datable'.nanos_lt
  rw [wireFields, wireFields, dateFields_lt_iff datable.year_nonneg datable'.year_nonneg,
    ← CivilDate.lt_iff_before, CivilDate.ofDays_inj, time, Before, truncated, truncated]
  simp only [Int.fdiv_eq_ediv_of_nonneg _ (by decide : (0 : Int) ≤ 86400),
    Int.fmod_eq_emod_of_nonneg _ (by decide : (0 : Int) ≤ 86400)]
  omega

theorem ascii_wireText (datable : t.Datable) : ∀ c ∈ t.wireText.toList, c.toNat ≤ 127 := by
  rw [wireText_eq datable, String.toList_ofList]
  exact ascii_laidOut (by simp [wireLayout])

theorem utf8_wireText (datable : t.Datable) :
    Text.utf8 t.wireText = t.wireText.toList.map Text.asciiByte := by
  have ascii := Text.utf8_of_ascii (ascii_wireText datable)
  rwa [String.ofList_toList] at ascii

theorem length_wireText (datable : t.Datable) : t.wireText.length = 28 := by
  rw [wireText_eq datable, String.length_ofList, length_laidOut (fits_wireFields datable)]
  rfl

theorem wireText_lt_iff (datable : t.Datable) (datable' : u.Datable) :
    Text.utf8 t.wireText < Text.utf8 u.wireText ↔ t.truncated.Before u.truncated := by
  rw [utf8_wireText datable, utf8_wireText datable',
    Text.map_asciiByte_lt (ascii_wireText datable) (ascii_wireText datable'),
    wireText_eq datable, wireText_eq datable', String.toList_ofList, String.toList_ofList,
    laidOut_lt_iff (fits_wireFields datable) (fits_wireFields datable'),
    wireFields_lt_iff datable datable']

theorem wireText_truncated (t : Instant) : t.truncated.wireText = t.wireText := by
  have second : t.nanos / 1000 * 1000 / 1000000000 = t.nanos / 1000000000 := by omega
  have micros : t.nanos / 1000 * 1000 % 1000000000 / 1000 = t.nanos % 1000000000 / 1000 := by omega
  rw [wireText, wireText, wireChars, wireChars, truncated, second, micros]

theorem wireText_inj (datable : t.Datable) (datable' : u.Datable) :
    t.wireText = u.wireText ↔ t.truncated = u.truncated := by
  constructor
  · intro same
    rw [← ofWireText_wireText datable, same, ofWireText_wireText datable']
  · intro same
    rw [← wireText_truncated t, same, wireText_truncated]

end moments

/-- Wire texts have one length, and their bytes compare as the moments do when these are cut to
microseconds. Such a moment comes back from its text, so that texts are equal only if their moments
are. -/
theorem wire_texts_sort {t u : Instant} (datable : t.Datable) (datable' : u.Datable) :
    t.wireText.length = 28 ∧ (Text.utf8 t.wireText).length = 28 ∧
    (Text.utf8 t.wireText < Text.utf8 u.wireText ↔ t.truncated.Before u.truncated) ∧
    (t.wireText = u.wireText ↔ t.truncated = u.truncated) ∧
    ofWireText t.wireText = t.truncated := by
  refine ⟨length_wireText datable, ?_, wireText_lt_iff datable datable',
    wireText_inj datable datable', ofWireText_wireText datable⟩
  rw [utf8_wireText datable, List.length_map, String.length_toList, length_wireText datable]

section lastMinute

/-- The middle of the leap second that ended the year 2016. -/
def leapSecond : Instant := ⟨1483228799, 1500000999⟩

def newYear2017 : Instant := ⟨1483228800, 1000⟩

theorem leap_second_sorts : leapSecond.Datable ∧ newYear2017.Datable ∧
    Text.utf8 leapSecond.wireText < Text.utf8 newYear2017.wireText ∧
    ofWireText leapSecond.wireText = ⟨1483228799, 1500000000⟩ := by
  have datable : leapSecond.Datable := ⟨by decide, by decide, by decide, by decide⟩
  have datable' : newYear2017.Datable := ⟨by decide, by decide, by decide, by decide⟩
  obtain ⟨-, -, sorted, -, read⟩ := wire_texts_sort datable datable'
  exact ⟨datable, datable', sorted.2 (.inl (by decide)), read⟩

end lastMinute

end Instant
end Redelivery
