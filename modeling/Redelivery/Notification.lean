import Redelivery.Failure
import Redelivery.Message
import Redelivery.Time.Duration

/-! What subscribers are told: a message will be attempted again, at once or after a delay, or a
message was moved to the error queue. -/
namespace Redelivery

inductive Notification where
  /-- The retry about to run is counted from one; an immediate one has no delay. -/
  | retry (attempt : Nat) (delay : Duration) (immediate : Bool) (message : Incoming)
      (failure : Failure)
  | faulted (message : Incoming) (failure : Failure)
  deriving DecidableEq

namespace Notification

def message : Notification → Incoming
  | .retry _ _ _ m _ => m
  | .faulted m _ => m

def failure : Notification → Failure
  | .retry _ _ _ _ f => f
  | .faulted _ f => f

inductive Kind where
  | immediateRetry
  | delayedRetry
  | faulted
  deriving DecidableEq, Repr

def kind : Notification → Kind
  | .retry _ _ true _ _ => .immediateRetry
  | .retry _ _ false _ _ => .delayedRetry
  | .faulted .. => .faulted

def Kind.name : Kind → String
  | .immediateRetry => "immediate_retry"
  | .delayedRetry => "delayed_retry"
  | .faulted => "message_faulted"

end Notification
end Redelivery
