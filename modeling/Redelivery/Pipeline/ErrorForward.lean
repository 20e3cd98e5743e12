import Redelivery.Message.FailureStamp
import Redelivery.Pipeline.DelayedRetries

/-! Forwarding to the error queue. A failure that reaches this stage ends the message: a copy of
it as received, with a description of the failure, is sent to the error queue. Where a receive
can be aborted, the failure is recorded and the receive aborted first, and the copy is sent on
the next delivery without running the rest of the chain; else the copy is sent at once. -/
namespace Redelivery

/-- A message as the error queue gets it: as received, with the description of its failure and
without its number of retries. -/
def Incoming.faulted (m : Incoming) (failure : Failure) (failedQueue : String) (time : Instant) :
    Incoming :=
  let reverted := m.revert
  { reverted with
    headers := (reverted.headers.stampFailure failure failedQueue time).erase Headers.retries }

namespace Stage

/-- Sends the copy. A failed dispatch is critical and becomes the failure of the delivery. -/
def forwardToErrorQueue (errorQueue : String) (failure : Failure) (c : Context) :
    Flow Passage := do
  let time ← Flow.now
  let c := { c with message := c.message.faulted failure c.address time }
  match ← Flow.dispatch { message := c.message.toOutgoing, destination := errorQueue } with
  | some dispatchFailure =>
    Flow.critical "Failed to forward message to error queue" dispatchFailure
    return { context := c, failure := some dispatchFailure }
  | none =>
    Flow.clear c.message.id
    Flow.log
      { level := .info, text := "Message moved to error queue",
        fields := [("message_id", .text c.message.id), ("error_queue", .text errorQueue),
                   ("error", .text failure.text), ("category", .text failure.category.name)] }
    Flow.notify (.faulted c.message failure)
    return { context := c }

def postponeForward (id : String) (failure : Failure) (c : Context) : Flow Passage := do
  Flow.log
    { level := .debug, text := "Aborting receive to forward message to error queue",
      fields := [("message_id", .text id), ("error", .text failure.text)] }
  Flow.record id failure true false
  return { context := c.abort }

def errorForward (mode : DecisionMode) (errorQueue : String) : Way → Way := fun rest c => do
  match mode with
  | .onNextDelivery =>
    match ← Flow.lookup c.message.id with
    | some ⟨_, failure, true, _⟩ => forwardToErrorQueue errorQueue failure c
    | _ =>
      let p ← rest c
      match p.failure with
      | none => return p
      | some failure => postponeForward c.message.id failure p.context
  | .atOnce =>
    let p ← rest c
    match p.failure with
    | none => return p
    | some failure => forwardToErrorQueue errorQueue failure p.context

end Stage
end Redelivery
