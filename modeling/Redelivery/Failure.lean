import Redelivery.Failure.Report
import Redelivery.Text.Quoted

/-! Why a message could not be processed. User code fails with a report; a body can be
unreadable; a message can fail to be sent. Only an unreadable body is beyond retrying. A report
keeps its identity through copies, so that two failures are the same exactly when they come from
one construction; the other two kinds are the same when they read the same. -/
namespace Redelivery

inductive Category where
  | deserialization
  | handler
  | dispatch
  deriving DecidableEq, Repr

namespace Category

def isRetryable : Category → Bool
  | .deserialization => false
  | _ => true

def name : Category → String
  | .deserialization => "deserialization"
  | .handler => "handler"
  | .dispatch => "dispatch"

end Category

structure HandlerFailure where
  identity : Nat
  exceptionType : String
  stage : Option String := none
  report : Report
  deriving DecidableEq, Repr

inductive Failure where
  | deserialization (messageId reason : String)
  | handler (failure : HandlerFailure)
  | dispatch (messageId destination reason : String)
  deriving DecidableEq, Repr

namespace Failure

/-- The exception type of reports that carry no type of their own. -/
def untypedReport : String := "eyre::Report"

def category : Failure → Category
  | .deserialization .. => .deserialization
  | .handler _ => .handler
  | .dispatch .. => .dispatch

def isRetryable (f : Failure) : Bool := f.category.isRetryable

def text : Failure → String
  | .deserialization messageId reason =>
    "failed to deserialize message '" ++ messageId ++ "': " ++ reason
  | .handler failure => failure.report.text
  | .dispatch messageId destination reason =>
    "failed to dispatch message '" ++ messageId ++ "' to '" ++ destination ++ "': " ++ reason

def exceptionType : Failure → String
  | .deserialization .. => "recoverability::MessageDeserializationError"
  | .handler failure => failure.exceptionType
  | .dispatch .. => "recoverability::DispatchError"

def stage? : Failure → Option String
  | .handler failure => failure.stage
  | _ => none

def stackTrace : Failure → String
  | .handler failure => failure.report.rendered
  | f => f.text

/-- Names the stage that raised a failure of user code; the first stage to claim it stays. -/
def claimedBy (stage : String) : Failure → Failure
  | .handler failure => .handler { failure with stage := some (failure.stage.getD stage) }
  | f => f

def sameAs : Failure → Failure → Bool
  | .handler a, .handler b => a.identity == b.identity
  | a, b => a.category == b.category && a.text == b.text

def kind : Failure → String
  | .deserialization .. => "Deserialization"
  | .handler _ => "Handler"
  | .dispatch .. => "Dispatch"

def quotedOption : Option String → String
  | none => "None"
  | some s => "Some(" ++ Text.quoted s ++ ")"

def description : Failure → String
  | .deserialization messageId reason =>
    Text.described "Deserialization"
      [("message_id", Text.quoted messageId), ("reason", Text.quoted reason)]
  | .handler failure =>
    "Handler(" ++ Text.described "HandlerFailure"
      [("exception_type", Text.quoted failure.exceptionType),
       ("source_stage", quotedOption failure.stage),
       ("message", Text.quoted failure.report.text)] ++ ")"
  | .dispatch messageId destination reason =>
    Text.described "Dispatch"
      [("message_id", Text.quoted messageId), ("destination", Text.quoted destination),
       ("reason", Text.quoted reason)]

end Failure
end Redelivery
