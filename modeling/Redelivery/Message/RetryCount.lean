import Redelivery.Log
import Redelivery.Message
import Redelivery.Text.Blank
import Redelivery.Whole

/-! How many delayed retries a message has behind it. The number travels in a header of its own;
white space around it is ignored, and a header that holds no number of 32 bits counts as none. -/
namespace Redelivery

def readRetries (value : String) : Except Whole.Fault Nat :=
  Whole.readNat Whole.max32 (Text.trim value.toList)

namespace Headers

def retryCount (h : Headers) : Nat :=
  match h.get? retries with
  | none => 0
  | some value =>
    match readRetries value with
    | .ok n => n
    | .error _ => 0

def retryWarnings (h : Headers) : List LogEntry :=
  match h.get? retries with
  | none => []
  | some value =>
    match readRetries value with
    | .ok _ => []
    | .error _ =>
      [{ level := .warn, text := "Malformed retries header, treating as absent",
         fields := [("header", .text retries), ("value", .text value)] }]

def nextRetry (h : Headers) : Nat := min (h.retryCount + 1) Whole.max32

end Headers
end Redelivery
