import Redelivery.FailureTable.Session
import Redelivery.Pipeline.World

/-! A session delivers messages one after another in one world. A message is new, or is a copy
that an earlier delivery sent. Between deliveries the table of failures can be changed by hand.
A delivery that panics is the last one. -/
namespace Redelivery

inductive Arrival where
  | fresh (m : Incoming)
  /-- The operation at a position among those dispatched so far, a negative one counted from the
  end. Failed dispatches count. -/
  | sent (position : Int)

inductive SessionStep (α : Type) where
  | deliver (arrival : Arrival) (course : Incoming → Flow α)
  | record (id : String) (failure : Failure) (toErrorQueue toDelay : Bool)
  | clear (id : String)

inductive StepOutcome (α : Type) where
  | delivered (a : α)
  | panicked (text : String)
  | noSuchDispatch
  | adjusted

def StepOutcome.isPanic {α : Type} : StepOutcome α → Bool
  | .panicked _ => true
  | _ => false

def StepOutcome.ofEnded {α : Type} : Ended α → StepOutcome α
  | .done a => .delivered a
  | .panicked text => .panicked text

structure StepReport (α : Type) where
  outcome : StepOutcome α
  events : List Event
  table : FailureTable
  /-- The records of the messages that the steps up to this one are about. -/
  records : List (String × FailureRecord)

structure Session (σ : Type) where
  world : World σ
  sent : List Operation := []
  mentioned : List String := []

namespace Session
variable {σ α : Type}

def arriving (s : Session σ) : Arrival → Option Incoming
  | .fresh m => some m
  | .sent (.ofNat n) => (s.sent[n]?).map (·.message.toIncoming)
  | .sent (.negSucc n) => (s.sent.reverse[n]?).map (·.message.toIncoming)

def mention (s : Session σ) (id : String) : Session σ :=
  if id ∈ s.mentioned then s else { s with mentioned := s.mentioned ++ [id] }

def operationsIn (events : List Event) : List Operation :=
  events.filterMap fun
    | .dispatched op _ => some op
    | _ => none

def report (s : Session σ) (outcome : StepOutcome α) (events : List Event) :
    Session σ × StepReport α :=
  let s := { s with sent := s.sent ++ operationsIn events }
  (s, { outcome, events, table := s.world.table,
        records := s.world.table.recordsOf s.mentioned })

def step (o : Outside σ) (s : Session σ) : SessionStep α → Session σ × StepReport α
  | .deliver arrival course =>
    match s.arriving arrival with
    | none => s.report .noSuchDispatch []
    | some m =>
      let s := s.mention m.id
      let run := (course m).run o s.world
      { s with world := run.world }.report (.ofEnded run.ended) run.events
  | .record id failure toErrorQueue toDelay =>
    let s := s.mention id
    let table := s.world.table
    let (recorded, dropped) := table.record id failure toErrorQueue toDelay
    let s := { s with world := { s.world with table := recorded } }
    s.report .adjusted ((table.evictionLog dropped).map .logged)
  | .clear id =>
    let s := s.mention id
    { s with world := { s.world with table := s.world.table.clear id } }.report .adjusted []

def runAll (o : Outside σ) : Session σ → List (SessionStep α) → List (StepReport α)
  | _, [] => []
  | s, step :: rest =>
    let (s, report) := s.step o step
    if report.outcome.isPanic then [report] else report :: runAll o s rest

end Session
end Redelivery
