import Redelivery.Time.Duration

/-! Who is to go on next, under a clock that stands still as long as somebody can go on. Those
who can stand in line and go on in the order in which they were woken. When the line is empty
the clock jumps to the earliest timer, and all who sleep until that millisecond get in line in
the order in which they fell asleep. -/
namespace Redelivery

structure Agenda (κ : Type) where
  /-- Milliseconds since the start. -/
  now : Nat := 0
  line : List κ := []
  /-- Who sleeps until when, the earliest first. -/
  timers : List (Nat × κ) := []

namespace Agenda
variable {κ : Type}

/-- The milliseconds of thirty years of 365 days. The event loop ends every longer wait then, those
whose end it could still tell as well: a wait of a thousand million seconds takes this long. -/
def longestWait : Nat := 946080000000

/-- The milliseconds a wait takes; a started one counts as whole. A wait beyond the longest ends
early, so what is to follow it comes before its time. -/
def waitMillis (wait : Duration) : Nat := min wait.ceilMillis longestWait

def due (a : Agenda κ) (wait : Duration) : Nat := a.now + waitMillis wait

def putTimer (time : Nat) (k : κ) : List (Nat × κ) → List (Nat × κ)
  | [] => [(time, k)]
  | (t, other) :: rest =>
    if t ≤ time then (t, other) :: putTimer time k rest else (time, k) :: (t, other) :: rest

def sleepUntil (a : Agenda κ) (k : κ) (time : Nat) : Agenda κ :=
  { a with timers := putTimer time k a.timers }

def resume (a : Agenda κ) (k : κ) : Agenda κ := { a with line := k :: a.line }

def next? (a : Agenda κ) : Option (κ × Agenda κ) :=
  match a.line with
  | k :: line => some (k, { a with line })
  | [] =>
    match a.timers with
    | [] => none
    | (time, k) :: rest =>
      some (k, { now := max a.now time, line := (rest.takeWhile (·.1 ≤ time)).map (·.2),
                 timers := rest.dropWhile (·.1 ≤ time) })

variable [DecidableEq κ]

def wake (a : Agenda κ) (k : κ) : Agenda κ :=
  if k ∈ a.line then a else { a with line := a.line ++ [k] }

def cancel (a : Agenda κ) (k : κ) : Agenda κ :=
  { a with timers := a.timers.filter (·.2 ≠ k) }

end Agenda
end Redelivery
