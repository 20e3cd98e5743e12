import Redelivery.Config.Settings
import Redelivery.Pipeline.ErrorForward
import Redelivery.Pipeline.ImmediateRetries

/-! The receive pipeline of an endpoint: forwarding to the error queue outermost, then delayed
retries if there are any, then immediate retries, then the endpoint's own stages. A message is
processed by delivering it as received until a delivery is not aborted. -/
namespace Redelivery

structure ReceivePipeline where
  stages : List Stage
  address : String

inductive Delivery where
  | completed
  | aborted
  | failed (failure : Failure)
  deriving DecidableEq

inductive Processed where
  | settled (deliveries : Nat)
  | failed (failure : Failure)
  deriving DecidableEq

namespace ReceivePipeline

def stageNames (p : ReceivePipeline) : List String := p.stages.map (·.name)

def invoke (p : ReceivePipeline) (message : Incoming) : Flow Delivery := do
  let passage ← runStages p.stages { message, address := p.address }
  match passage.failure with
  | some failure => return .failed failure
  | none => return if passage.context.aborted then .aborted else .completed

def redeliveryEntry (messageId : String) (deliveries : Nat) : LogEntry :=
  { level := .debug, text := "Receive aborted, redelivering",
    fields := [("message_id", .text messageId), ("deliveries", .number deliveries)] }

/-- Delivers a message again and again, as often as allowed, after earlier deliveries. -/
def processWithin (p : ReceivePipeline) (message : Incoming) : Nat → Nat → Flow Processed
  | 0, _ => .panicked "attempt to add with overflow"
  | allowed + 1, earlier => do
    match ← p.invoke message with
    | .completed => return .settled (earlier + 1)
    | .failed failure => return .failed failure
    | .aborted =>
      Flow.log (redeliveryEntry message.id (earlier + 1))
      processWithin p message allowed (earlier + 1)

/-- Delivers a message until it is settled or its forwarding fails. Deliveries are counted in 32
bits, and one more than these can count is a panic. -/
def process (p : ReceivePipeline) (message : Incoming) : Flow Processed :=
  p.processWithin message Whole.max32 0

def errorForwardName : String := "MoveFaultsToErrorQueue"
def delayedRetriesName : String := "SecondLevelRetries"
def immediateRetriesName : String := "FirstLevelRetries"

def policyOf (s : Settings) (given : Option DelayPolicy) : Option DelayPolicy :=
  match given with
  | some policy => some policy
  | none =>
    if s.delayed.isActive then some (.linear s.delayed.retries.toNat s.delayed.increase) else none

def recoverability (s : Settings) (given : Option DelayPolicy) : List Stage :=
  let mode := DecisionMode.ofAbortable s.mode.canAbort
  ⟨errorForwardName, Stage.errorForward mode s.errorQueue⟩ ::
  ((policyOf s given).map fun policy =>
    ⟨delayedRetriesName, Stage.delayedRetries mode policy⟩).toList ++
  [⟨immediateRetriesName, Stage.immediateRetries s.immediateRetries.toNat⟩]

def build (s : Settings) (given : Option DelayPolicy) (own : List Stage) :
    Except ConfigError ReceivePipeline := do
  if s.sendOnly then
    throw (.invalid "send_only" "send-only endpoints have no receive pipeline")
  s.validate
  return { stages := recoverability s given ++ own, address := s.address }

def builtEntry (s : Settings) (p : ReceivePipeline) : LogEntry :=
  { level := .info, text := "Receive pipeline built",
    fields := [("endpoint", .text s.address), ("error_queue", .text s.errorQueue),
               ("transaction_mode", .text s.mode.name),
               ("max_immediate_retries", .number s.immediateRetries.toNat),
               ("stages", .text (Text.quotedList p.stageNames))] }

end ReceivePipeline
end Redelivery
