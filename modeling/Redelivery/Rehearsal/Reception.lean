import Redelivery.FailureTable.Session
import Redelivery.Receiver.Run
import Redelivery.Rehearsal.Cast

/-! A receiver at work among a scripted cast, under commands at given times. What was seen can be
told in the order of time and, within a millisecond, of the messages it is about. -/
namespace Redelivery

structure Reception where
  pipeline : ReceivePipeline
  cast : Cast
  source : Source
  rest : Duration
  concurrency : Nat
  capacity : Nat
  commands : Commands

structure ReceptionReport where
  receiver : Receiver CastState
  seen : List (Nat × Happening)
  records : List (String × FailureRecord)

namespace Reception

def sentIds (commands : Commands) : List String :=
  commands.filterMap fun
    | (_, .send _ m) => some m.id
    | _ => none

def receivedIds (seen : List (Nat × Happening)) : List String :=
  seen.filterMap fun
    | (_, .received id _) => id
    | _ => none

def run (r : Reception) : Option ReceptionReport :=
  if permitLimit < r.concurrency then none
  else
    let plan : ReceiverPlan CastState :=
      { pipeline := r.pipeline, host := r.cast.host, rest := r.rest, concurrency := r.concurrency }
    let start := Receiver.create plan r.source (.ofCapacity r.capacity) {}
    let (scene, seen) := (Commands.before r.commands start).run plan Commands.director
    let receiver := scene.receiver
    let ids := (sentIds r.commands ++ receivedIds seen).eraseDups
    some { receiver, seen, records := receiver.table.recordsOf ids }

end Reception

/-- The message an event is about; an alarm is about the whole endpoint. -/
def Event.subject? : Event → Option String
  | .entered _ id => some id
  | .called _ _ m => some m.id
  | .consulted _ q _ => some q.message.id
  | .dispatched op _ => some op.message.id
  | .notified n => some n.message.id
  | _ => none

structure Timed (α : Type) where
  time : Nat
  subject : Option String
  what : α

namespace Timed
variable {α : Type}

def precedes (a b : Timed α) : Bool :=
  a.time < b.time || (a.time == b.time && match a.subject, b.subject with
    | none, _ => true
    | some _, none => false
    | some x, some y => x ≤ y)

def sorted (entries : List (Timed α)) : List (Timed α) := entries.mergeSort precedes

end Timed
end Redelivery
