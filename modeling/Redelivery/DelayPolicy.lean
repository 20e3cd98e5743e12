import Redelivery.Failure
import Redelivery.Message.RetryCount
import Redelivery.Time.Duration

/-! When a message that used up its immediate retries is delivered again. The linear policy
waits a growing time and ends after a number of retries; a schedule of the user's own reads the
message and says zero for no retry; any other policy is the host's, asked by its number. -/
namespace Redelivery

/-- What a policy is asked: the message, its failure, and the number of the retry to come. -/
structure DelayQuestion where
  message : Incoming
  failure : Failure
  retry : Nat

structure Schedule where
  delayFor : Incoming → Duration
  log : Incoming → List LogEntry := fun _ => []

namespace Schedule

def byBodyLength : Schedule := ⟨fun m => .ofMillis m.body.length, fun _ => []⟩

def byHeader (name : String) : Schedule where
  delayFor m :=
    match m.headers.get? name with
    | none => .zero
    | some value =>
      match Whole.readNat Whole.max64 value.toList with
      | .ok n => .ofMillis n
      | .error _ => .zero

def byTable (delays : List Duration) : Schedule where
  delayFor m := (delays[m.headers.retryCount]?).getD .zero
  log m := m.headers.retryWarnings

end Schedule

inductive DelayPolicy where
  | linear (retries : Nat) (increase : Duration)
  | ofMessage (schedule : Schedule)
  | host (number : Nat)

namespace DelayPolicy

def standard : DelayPolicy := .linear 3 (.ofSeconds 10)

def linearDelay (retries : Nat) (increase : Duration) (retry : Nat) : Option Duration :=
  if retry = 0 ∨ retries < retry then none else some (increase.saturatingMul retry)

def nonZero (delay : Duration) : Option Duration := if delay.isZero then none else some delay

def customDescription : String := "CustomSecondLevelRetryPolicy"

end DelayPolicy

def givesUp (maxRetries failedAttempts : Nat) : Bool := maxRetries ≤ failedAttempts

end Redelivery
