import Redelivery.Message.RetryCount
import Redelivery.Pipeline.Chain

/-! Delayed retries. When a policy grants one, a copy of the message as received is sent to the
endpoint's own queue with the number of the retry and a delay. Where a receive can be aborted,
the failure is recorded and the receive aborted first, and the copy is sent on the next delivery
without running the rest of the chain; else the copy is sent at once. -/
namespace Redelivery

/-- Whether a decision is carried out on the next delivery or at once. -/
inductive DecisionMode where
  | onNextDelivery
  | atOnce
  deriving DecidableEq, Repr

def DecisionMode.ofAbortable (abortable : Bool) : DecisionMode :=
  if abortable then .onNextDelivery else .atOnce

namespace Stage

def grantedDelay (policy : DelayPolicy) (failure : Failure) (message : Incoming) :
    Flow (Option (Nat × Duration)) :=
  if failure.isRetryable then do
    Flow.logAll message.headers.retryWarnings
    let retry := message.headers.nextRetry
    let delay ← Flow.consult policy { message, failure, retry }
    return delay.map fun d => (retry, d)
  else return none

/-- Passes the failure on, the message without its number of retries. -/
def delayedRetriesUsedUp (failure : Failure) (c : Context) : Flow Passage := do
  let c := { c with message := c.message.removeHeader Headers.retries }
  if failure.isRetryable then
    Flow.log
      { level := .warn, text := "Delayed retries exhausted",
        fields := [("message_id", .text c.message.id), ("error", .text failure.text)] }
  return { context := c, failure := some failure }

/-- The copy that comes back as a delayed retry. The time of the first one stays. -/
def delayedCopy (message : Incoming) (retry : Nat) (time : Instant) : Outgoing :=
  let copy := message.toOutgoing
  { copy with
    headers := (copy.headers.insert Headers.retries (Whole.text retry)).insertIfNew
      Headers.retriesTimestamp time.wireText }

/-- Sends the copy. A failed dispatch is critical and takes the place of the failure at hand. -/
def deferMessage (failure : Failure) (retry : Nat) (delay : Duration) (c : Context) :
    Flow Passage := do
  let c := { c with message := c.message.revert }
  let copy := delayedCopy c.message retry (← Flow.now)
  match ← Flow.dispatch { message := copy, destination := c.address, delays := [delay] } with
  | some dispatchFailure =>
    Flow.critical "Failed to schedule delayed retry" dispatchFailure
    return { context := c, failure := some dispatchFailure }
  | none =>
    Flow.clear c.message.id
    Flow.log
      { level := .info, text := "Message scheduled for delayed retry",
        fields := [("message_id", .text c.message.id), ("retry", .number retry),
                   ("delay_ms", .number delay.millis64), ("destination", .text c.address),
                   ("error", .text failure.text)] }
    Flow.notify (.retry retry delay false copy.toIncoming failure)
    return { context := c }

def settleDelay (policy : DelayPolicy) (failure : Failure) (c : Context) : Flow Passage := do
  match ← grantedDelay policy failure c.message with
  | some (retry, delay) => deferMessage failure retry delay c
  | none => delayedRetriesUsedUp failure c

def resumeDelay (policy : DelayPolicy) (failure : Failure) (c : Context) : Flow Passage := do
  match ← grantedDelay policy failure c.message with
  | some (retry, delay) => deferMessage failure retry delay c
  | none =>
    Flow.clear c.message.id
    delayedRetriesUsedUp failure c

def postponeDelay (id : String) (failure : Failure) (c : Context) : Flow Passage := do
  Flow.log
    { level := .debug, text := "Aborting receive to defer message",
      fields := [("message_id", .text id)] }
  Flow.record id failure false true
  return { context := c.abort }

def delayedRetries (mode : DecisionMode) (policy : DelayPolicy) : Way → Way := fun rest c => do
  match mode with
  | .onNextDelivery =>
    match ← Flow.lookup c.message.id with
    | some ⟨_, failure, _, true⟩ => resumeDelay policy failure c
    | _ =>
      let p ← rest c
      match p.failure with
      | none => return p
      | some failure =>
        if failure.isRetryable then postponeDelay c.message.id failure p.context
        else delayedRetriesUsedUp failure p.context
  | .atOnce =>
    let p ← rest c
    match p.failure with
    | none => return p
    | some failure => settleDelay policy failure p.context

end Stage
end Redelivery
