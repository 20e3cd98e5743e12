import Redelivery.Whole

/-! Lengths of time as whole seconds in 64 bits and nanoseconds below one second.
Multiplication carries the nanoseconds into the seconds and stops at the longest duration. -/
namespace Redelivery

structure Duration where
  seconds : Nat
  nanos : Nat
  seconds_lt : seconds < 18446744073709551616 := by decide
  nanos_lt : nanos < 1000000000 := by decide
  deriving DecidableEq, Repr

namespace Duration

def zero : Duration := ⟨0, 0, by decide, by decide⟩

def longest : Duration := ⟨18446744073709551615, 999999999, by decide, by decide⟩

instance : Inhabited Duration := ⟨zero⟩

def toNanos (d : Duration) : Nat := d.seconds * 1000000000 + d.nanos

def isZero (d : Duration) : Bool := d.seconds == 0 && d.nanos == 0

/-- Whole seconds, if they fit in 64 bits, else the longest duration. -/
def ofSeconds (n : Nat) : Duration :=
  if h : n < 18446744073709551616 then ⟨n, 0, h, by decide⟩ else longest

/-- Seconds and nanoseconds, if both are in range, else the longest duration. -/
def ofParts (seconds nanos : Nat) : Duration :=
  if h : seconds < 18446744073709551616 ∧ nanos < 1000000000 then ⟨seconds, nanos, h.1, h.2⟩ else longest

/-- Whole milliseconds, if their seconds fit in 64 bits, else the longest duration. -/
def ofMillis (n : Nat) : Duration :=
  if h : n / 1000 < 18446744073709551616 then ⟨n / 1000, n % 1000 * 1000000, h, by omega⟩ else longest

/-- The product with a count. The nanoseconds are multiplied first and carried; a product
beyond the longest duration is the longest duration. -/
def saturatingMul (d : Duration) (count : Nat) : Duration :=
  let nanos := d.nanos * count
  let seconds := d.seconds * count + nanos / 1000000000
  if h : seconds < 18446744073709551616 then
    ⟨seconds, nanos % 1000000000, h, Nat.mod_lt _ (by decide)⟩
  else longest

def millis64 (d : Duration) : Nat := (d.toNanos / 1000000) % 18446744073709551616

def ceilMillis (d : Duration) : Nat := (d.toNanos + 999999) / 1000000

def max (a b : Duration) : Duration := if a.toNanos ≤ b.toNanos then b else a

def longestOf (ds : List Duration) : Duration := ds.foldl max zero

end Duration
end Redelivery
