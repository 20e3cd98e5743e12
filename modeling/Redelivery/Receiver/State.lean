import Redelivery.Pipeline.Receive
import Redelivery.Receiver.Signal
import Redelivery.Receiver.Source

/-! A receiver at work. Its loop holds a permit while it asks the source for a message and hands
the permit to the task of the message it gets; a task gives its permit back when the source was
told what became of the message. -/
namespace Redelivery

inductive LoopStage where
  | top
  | acquiring
  | receiving
  /-- Listening at the mailbox, until a time. -/
  | listening (time : Nat)
  | resting (time : Nat)
  | reaping
  /-- No new messages; waiting for the tasks. -/
  | draining
  | stopped
  deriving DecidableEq, Repr

def LoopStage.holdsPermit : LoopStage → Bool
  | .receiving | .listening _ => true
  | _ => false

inductive TaskPhase where
  | received
  /-- The rest of the processing, which goes on at a time. -/
  | processing (rest : Flow Processed) (time : Nat)
  | processed (result : Ended Processed)

structure Task where
  number : Nat
  message : Incoming
  phase : TaskPhase := .received

structure ReceiverPlan (τ : Type) where
  pipeline : ReceivePipeline
  host : Host τ
  rest : Duration
  concurrency : Nat

/-- Permits; there is always at least one. -/
def ReceiverPlan.permits {τ : Type} (p : ReceiverPlan τ) : Nat := max p.concurrency 1

def permitLimit : Nat := 2305843009213693951

structure Receiver (τ : Type) where
  stage : LoopStage := .top
  free : Nat
  /-- Failed receives since the last message. -/
  failures : Nat := 0
  signal : Signal := {}
  tasks : List Task := []
  /-- Finished tasks nobody looked after yet, with the texts of their panics. -/
  finished : List (Nat × Option String) := []
  nextTask : Nat := 0
  source : Source
  exchange : Exchange := { listener := .receiver }
  table : FailureTable
  host : τ

inductive Happening where
  | delivery (e : Event)
  | received (id : Option String) (failure : Option Failure)
  | completed (id : String)
  | abandoned (m : Incoming)
  | logged (entry : LogEntry)
  | measured (m : Measure)

namespace Happening

def logged? : Happening → Option LogEntry
  | .delivery e => e.logged?
  | .logged entry => some entry
  | _ => none

def measure? : Happening → Option Measure
  | .delivery e => e.measure?
  | .measured m => some m
  | _ => none

end Happening

/-- A turn: the receiver after it, what was seen, and whether the same activity goes on. -/
structure Turn (τ : Type) where
  receiver : Receiver τ
  seen : List Happening := []
  goesOn : Bool := false

namespace Receiver
variable {τ : Type}

def create (p : ReceiverPlan τ) (source : Source) (table : FailureTable) (host : τ) :
    Receiver τ :=
  { free := p.permits, source, table, host }

def wake (r : Receiver τ) (a : Activity) : Receiver τ :=
  { r with exchange := r.exchange.wake a }

def wakeLoopIf (r : Receiver τ) (waits : Bool) : Receiver τ :=
  if waits then r.wake .receiver else r

def release (r : Receiver τ) : Receiver τ :=
  { r with free := r.free + 1 }.wakeLoopIf (r.stage = LoopStage.acquiring)

def signalled (r : Receiver τ) (change : Signal → Signal) : Receiver τ :=
  { r with signal := change r.signal }.wakeLoopIf (match r.stage with
    | .acquiring | .listening _ | .resting _ => true
    | _ => false)

def panicText (task : Nat) (text : String) : String :=
  "task " ++ Whole.text task ++ " panicked with message " ++ Text.quoted text

end Receiver
end Redelivery
