import Redelivery.DelayPolicy
import Redelivery.FailureTable
import Redelivery.Notification
import Redelivery.Operation
import Redelivery.Time.Instant

/-! The course of a delivery as a tree: either it is done, or it was cut short by a panic, or it
puts a request to its surroundings and goes on with the answer. Nothing else can be seen of a
delivery, so two deliveries with equal trees behave alike in all surroundings. -/
namespace Redelivery

inductive HandlerOutcome where
  | done
  | failed (failure : Failure)
  | panicked (text : String)
  deriving DecidableEq

/-- What a handler did with one message: the headers and the body it left, after a pause. The id and
the bytes received stay: handlers that put another message in the place of theirs are left out. -/
structure Handling where
  /-- The number of this call, as the host counts them. -/
  call : Nat
  pause : Duration := .zero
  headers : Headers
  body : Bytes
  log : List LogEntry := []
  outcome : HandlerOutcome := .done

inductive Observation where
  | before (label : String)
  | after (label : String) (succeeded aborted : Bool)
  | swallowed (failure : Failure)
  deriving DecidableEq

inductive Request where
  | enter (stage messageId : String)
  | lookup (id : String)
  | record (id : String) (failure : Failure) (toErrorQueue toDelay : Bool)
  | clear (id : String)
  | handle (slot : Nat) (name : String) (message : Incoming)
  | pause (length : Duration)
  | consult (policy : DelayPolicy) (question : DelayQuestion)
  | dispatch (op : Operation)
  | now
  | notify (n : Notification)
  | critical (text : String) (failure : Failure)
  | log (entry : LogEntry)
  | observe (o : Observation)

/-- What is answered; a dispatch is answered by its failure, if it fails. -/
def Request.Answer : Request → Type
  | .lookup _ => Option FailureRecord
  | .handle .. => Handling
  | .consult .. => Option Duration
  | .dispatch _ => Option Failure
  | .now => Instant
  | _ => Unit

inductive Flow (α : Type) where
  | done (a : α)
  | panicked (text : String)
  | ask (r : Request) (next : r.Answer → Flow α)

namespace Flow
variable {α β γ : Type}

def bind : Flow α → (α → Flow β) → Flow β
  | .done a, f => f a
  | .panicked text, _ => .panicked text
  | .ask r next, f => .ask r fun answer => (next answer).bind f

instance : Monad Flow where
  pure := .done
  bind := bind

theorem bind_assoc (x : Flow α) (f : α → Flow β) (g : β → Flow γ) :
    (x.bind f).bind g = x.bind fun a => (f a).bind g := by
  induction x with
  | done a => rfl
  | panicked text => rfl
  | ask r next ih => exact congrArg (Flow.ask r) (funext fun answer => ih answer)

theorem bind_done (x : Flow α) : x.bind .done = x := by
  induction x with
  | done a => rfl
  | panicked text => rfl
  | ask r next ih => exact congrArg (Flow.ask r) (funext fun answer => ih answer)

def lookup (id : String) : Flow (Option FailureRecord) := .ask (.lookup id) .done
def record (id : String) (failure : Failure) (toErrorQueue toDelay : Bool) : Flow Unit :=
  .ask (.record id failure toErrorQueue toDelay) .done
def clear (id : String) : Flow Unit := .ask (.clear id) .done
def handle (slot : Nat) (name : String) (message : Incoming) : Flow Handling :=
  .ask (.handle slot name message) .done
def pause (length : Duration) : Flow Unit := .ask (.pause length) .done
def consult (policy : DelayPolicy) (question : DelayQuestion) : Flow (Option Duration) :=
  .ask (.consult policy question) .done
def dispatch (op : Operation) : Flow (Option Failure) := .ask (.dispatch op) .done
def now : Flow Instant := .ask .now .done
def notify (n : Notification) : Flow Unit := .ask (.notify n) .done
def critical (text : String) (failure : Failure) : Flow Unit := .ask (.critical text failure) .done
def log (entry : LogEntry) : Flow Unit := .ask (.log entry) .done
def observe (o : Observation) : Flow Unit := .ask (.observe o) .done

def logAll : List LogEntry → Flow Unit
  | [] => .done ()
  | entry :: rest => .ask (.log entry) fun _ => logAll rest

end Flow
end Redelivery
