import Mathlib.Data.List.TakeWhile
import Redelivery.Agenda

/-! Who is to go on at what time. Those in line go on now, the others when their timers expire. A
turn takes the first of all these appointments and leaves the others as they are. -/
namespace Redelivery

namespace Duration

theorem ceilMillis_zero {d : Duration} (zero : d.isZero = true) : d.ceilMillis = 0 := by
  simp only [isZero, Bool.and_eq_true, beq_iff_eq] at zero
  simp [ceilMillis, toNanos, zero.1, zero.2]

theorem le_max (a b : Duration) :
    a.toNanos ≤ (a.max b).toNanos ∧ b.toNanos ≤ (a.max b).toNanos := by
  unfold max
  split <;> omega

theorem le_foldl_max (delays : List Duration) (least : Duration) :
    least.toNanos ≤ (delays.foldl max least).toNanos ∧
      ∀ d ∈ delays, d.toNanos ≤ (delays.foldl max least).toNanos := by
  induction delays generalizing least with
  | nil => exact ⟨Nat.le_refl _, nofun⟩
  | cons d rest ih =>
    obtain ⟨grown, others⟩ := ih (least.max d)
    obtain ⟨left, right⟩ := le_max least d
    refine ⟨Nat.le_trans left grown, fun other member => ?_⟩
    rcases List.mem_cons.1 member with rfl | later
    · exact Nat.le_trans right grown
    · exact others other later

theorem le_longestOf {delays : List Duration} {d : Duration} (member : d ∈ delays) :
    d.toNanos ≤ (longestOf delays).toNanos := (le_foldl_max delays zero).2 d member

theorem foldl_max_mem (delays : List Duration) (least : Duration) :
    delays.foldl max least = least ∨ delays.foldl max least ∈ delays := by
  induction delays generalizing least with
  | nil => exact .inl rfl
  | cons d rest ih =>
    rcases ih (least.max d) with first | later
    · rw [List.foldl_cons, first, max]
      split
      · exact .inr List.mem_cons_self
      · exact .inl rfl
    · exact .inr (List.mem_cons_of_mem d later)

theorem longestOf_mem {delays : List Duration} (some : (longestOf delays).isZero = false) :
    longestOf delays ∈ delays := by
  rcases foldl_max_mem delays .zero with none | one
  · rw [longestOf, none] at some
    cases some
  · exact one

theorem isZero_longestOf {delays : List Duration} (zero : ∀ d ∈ delays, d.isZero = true) :
    (longestOf delays).isZero = true := by
  by_contra some
  exact some (zero _ (longestOf_mem (by simpa using some)))

/-- A sleep of this length does not end early. -/
def SleptOut (d : Duration) : Prop := d.toNanos ≤ Agenda.waitMillis d * 1000000

theorem sleptOut_iff (d : Duration) :
    d.SleptOut ↔ d.toNanos ≤ Agenda.longestWait * 1000000 := by
  unfold SleptOut Agenda.waitMillis ceilMillis
  omega

theorem waitMillis_le {delays : List Duration} {d : Duration} (member : d ∈ delays) :
    Agenda.waitMillis d ≤ Agenda.waitMillis (longestOf delays) := by
  have covered := le_longestOf member
  have longer : d.ceilMillis ≤ (longestOf delays).ceilMillis := by
    unfold ceilMillis
    omega
  unfold Agenda.waitMillis
  omega

end Duration

namespace Agenda
variable {κ : Type} {a a' : Agenda κ} {k : κ} {time : Nat}

def appointments (a : Agenda κ) : List (Nat × κ) := a.line.map (a.now, ·) ++ a.timers

/-- The timers are in order of time, and none has expired before. -/
structure Ordered (a : Agenda κ) : Prop where
  sorted : a.timers.Pairwise (·.1 ≤ ·.1)
  ahead : ∀ timer ∈ a.timers, a.now ≤ timer.1

theorem Ordered.now_le (ordered : a.Ordered) : ∀ e ∈ a.appointments, a.now ≤ e.1 := by
  intro e member
  rcases List.mem_append.1 member with inLine | timer
  · obtain ⟨k, _, rfl⟩ := List.mem_map.1 inLine
    exact Nat.le_refl _
  · exact ordered.ahead e timer

theorem split_expired {timers : List (Nat × κ)} (ahead : ∀ timer ∈ timers, time ≤ timer.1) :
    ((timers.takeWhile (·.1 ≤ time)).map (·.2)).map (time, ·) ++
      timers.dropWhile (·.1 ≤ time) = timers := by
  have same : ((timers.takeWhile (·.1 ≤ time)).map (·.2)).map (time, ·) =
      timers.takeWhile (·.1 ≤ time) := by
    rw [List.map_map]
    refine (List.map_congr_left fun timer member => ?_).trans (List.map_id _)
    have expired : timer.1 ≤ time := by simpa using List.mem_takeWhile_imp member
    have equal : time = timer.1 :=
      Nat.le_antisymm (ahead timer (List.takeWhile_subset _ member)) expired
    simp only [Function.comp_apply, equal]
    rfl
  rw [same, List.takeWhile_append_dropWhile]

theorem appointments_next (ordered : a.Ordered) (next : a.next? = some (k, a')) :
    a.appointments = (a'.now, k) :: a'.appointments ∧ a'.Ordered ∧ a.now ≤ a'.now := by
  unfold next? at next
  cases line : a.line with
  | cons first rest =>
    rw [line] at next
    cases next
    refine ⟨?_, ⟨ordered.sorted, ordered.ahead⟩, Nat.le_refl _⟩
    rw [appointments, line]
    rfl
  | nil =>
    rw [line] at next
    cases timers : a.timers with
    | nil =>
      rw [timers] at next
      cases next
    | cons timer rest =>
      obtain ⟨time, first⟩ := timer
      rw [timers] at next
      cases next
      have ahead : a.now ≤ time := ordered.ahead (time, k) (timers ▸ List.mem_cons_self)
      have sorted := ordered.sorted
      rw [timers, List.pairwise_cons] at sorted
      have split := split_expired sorted.1
      have now : max a.now time = time := Nat.max_eq_right ahead
      refine ⟨?_, ⟨?_, ?_⟩, ?_⟩
      · simp only [appointments, line, timers, now, split]
        rfl
      · exact sorted.2.sublist (List.dropWhile_sublist _)
      · simp only [now]
        exact fun timer member => sorted.1 timer (List.dropWhile_subset _ member)
      · exact Nat.le_max_left _ _

theorem appointments_nil (next : a.next? = none) : a.appointments = [] := by
  unfold next? at next
  cases line : a.line with
  | cons first rest =>
    rw [line] at next
    cases next
  | nil =>
    rw [line] at next
    cases timers : a.timers with
    | nil => rw [appointments, line, timers]; rfl
    | cons timer rest =>
      rw [timers] at next
      cases next

theorem perm_putTimer (time : Nat) (k : κ) (timers : List (Nat × κ)) :
    (putTimer time k timers).Perm ((time, k) :: timers) := by
  induction timers with
  | nil => exact .refl _
  | cons timer rest ih =>
    obtain ⟨earlier, other⟩ := timer
    unfold putTimer
    split
    · exact (ih.cons _).trans (.swap _ _ _)
    · exact .refl _

theorem sorted_putTimer {timers : List (Nat × κ)} (sorted : timers.Pairwise (·.1 ≤ ·.1))
    (time : Nat) (k : κ) : (putTimer time k timers).Pairwise (·.1 ≤ ·.1) := by
  induction timers with
  | nil => exact List.pairwise_singleton _ _
  | cons timer rest ih =>
    obtain ⟨first, later⟩ := List.pairwise_cons.1 sorted
    obtain ⟨earlier, other⟩ := timer
    unfold putTimer
    split
    · rename_i before
      refine List.pairwise_cons.2 ⟨fun e member => ?_, ih later⟩
      rcases List.mem_cons.1 ((perm_putTimer time k rest).subset member) with rfl | old
      · exact before
      · exact first e old
    · rename_i after
      refine List.pairwise_cons.2 ⟨fun e member => ?_, sorted⟩
      have before : time ≤ earlier := Nat.le_of_not_le after
      rcases List.mem_cons.1 member with rfl | old
      · exact before
      · exact Nat.le_trans before (first e old)

theorem appointments_sleepUntil (a : Agenda κ) (k : κ) (time : Nat) :
    (a.sleepUntil k time).appointments.Perm ((time, k) :: a.appointments) :=
  ((perm_putTimer time k a.timers).append_left _).trans List.perm_middle

theorem Ordered.sleepUntil (ordered : a.Ordered) (k : κ) (ahead : a.now ≤ time) :
    (a.sleepUntil k time).Ordered := by
  refine ⟨sorted_putTimer ordered.sorted time k, fun timer member => ?_⟩
  rcases List.mem_cons.1 ((perm_putTimer time k a.timers).subset member) with rfl | old
  · exact ahead
  · exact ordered.ahead timer old

variable [DecidableEq κ]

theorem appointments_wake (a : Agenda κ) (inLine : k ∉ a.line) :
    (a.wake k).appointments.Perm ((a.now, k) :: a.appointments) := by
  rw [wake, if_neg inLine, appointments, List.map_append, List.append_assoc]
  exact List.perm_middle

theorem wake_inLine (a : Agenda κ) (inLine : k ∈ a.line) : a.wake k = a := if_pos inLine

theorem Ordered.wake (ordered : a.Ordered) (k : κ) : (a.wake k).Ordered := by
  unfold Agenda.wake
  split <;> exact ⟨ordered.sorted, ordered.ahead⟩

theorem Ordered.cancel (ordered : a.Ordered) (k : κ) : (a.cancel k).Ordered :=
  ⟨ordered.sorted.filter _, fun timer member => ordered.ahead timer (List.mem_filter.1 member).1⟩

end Agenda
end Redelivery
