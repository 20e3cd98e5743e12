import Redelivery.Pipeline.Chain

/-! Immediate retries. A failure below the bound is recorded and the receive aborted, so that the
same message is delivered again at once. At the bound the number of retries is written onto the
message, the record is dropped and the failure passed on. A body that cannot be read is never
retried, and a success forgets all earlier failures. Records go by the id the message came in
with, whatever the rest of the chain made of the message. -/
namespace Redelivery.Stage

def immediateRetriesUsedUp (id : String) (attempts : Nat) (failure : Failure) (c : Context) :
    Flow Passage := do
  let c := { c with message := c.message.setHeader Headers.immediateRetries (Whole.text attempts) }
  Flow.clear id
  Flow.log
    { level := .warn, text := "Immediate retries exhausted",
      fields := [("message_id", .text id), ("attempts", .number attempts),
                 ("error", .text failure.text)] }
  return { context := c, failure := some failure }

def retryAtOnce (id : String) (bound attempts : Nat) (failure : Failure) (c : Context) :
    Flow Passage := do
  Flow.record id failure false false
  let attempt := attempts + 1
  Flow.log
    { level := .debug, text := "Scheduling immediate retry",
      fields := [("message_id", .text id), ("attempt", .number attempt),
                 ("max_retries", .number bound), ("error", .text failure.text)] }
  Flow.notify (.retry attempt .zero true c.message failure)
  return { context := c.abort }

/-- At most the given number of retries. The attempts are counted before the rest runs. -/
def immediateRetries (bound : Nat) : Way → Way := fun rest c => do
  let known ← Flow.lookup c.message.id
  let attempts := (known.map (·.attempts)).getD 0
  let p ← rest c
  match p.failure with
  | none =>
    Flow.clear c.message.id
    return p
  | some failure =>
    if failure.isRetryable then
      if givesUp bound attempts then immediateRetriesUsedUp c.message.id attempts failure p.context
      else retryAtOnce c.message.id bound attempts failure p.context
    else return p

end Redelivery.Stage
