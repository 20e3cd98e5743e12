import Redelivery.Demo.Batch
import Redelivery.Demo.StockRoom
import Redelivery.Receiver.Run

/-! The demo endpoint. It sends itself a batch and receives it until every message is reserved or
in the error queue, which is checked five times a second, or until it is told to stop. -/
namespace Redelivery.Demo

structure Office where
  room : StockRoom := {}
  faulted : Nat := 0

def Office.settled (o : Office) : Nat := o.room.reserved + o.faulted

def entry (level : LogLevel) (text : String) (fields : List (String × LogValue) := []) :
    LogEntry := { level, text, fields, target := "bus_demo_endpoint" }

/-- What the clock shows when the office asks for the time. -/
structure Clock where
  reading : Office → Instant

instance : Coe Instant Clock := ⟨fun time => ⟨fun _ => time⟩⟩

def host (clock : Clock) : Host Office where
  handle _ m o :=
    let (handling, room) := o.room.handle m
    (handling, { o with room })
  consult _ _ o := (none, o)
  now := clock.reading
  notified n o := if n.kind = .faulted then { o with faulted := o.faulted + 1 } else o
  alarm text failure :=
    [entry .error ("Endpoint needs attention: " ++ text) [("error", .text failure.text)]]

def checkInterval : Nat := 200

def watch (sent : Nat) (stopAt : Option Nat) (r : Receiver Office) : Turn Office :=
  let stopped := (r.signalled (·.send true)).signalled Signal.drop
  let now := r.exchange.now
  let settled := r.host.settled
  if stopAt.any (· ≤ now) then { receiver := stopped }
  else if sent ≤ settled then
    { receiver := stopped
      seen := [.logged (entry .info "All messages settled" [("settled", .number settled)])] }
  else
    let next := now + checkInterval
    let next := (stopAt.map (min next)).getD next
    { receiver := { r with exchange := r.exchange.sleepUntil .host next } }

def watcher (sent : Nat) (stopAt : Option Nat) : Director Unit Office where
  turn _ r := ((), watch sent stopAt r)
  isDone _ := true

structure Summary where
  sent : Nat
  reserved : Nat
  faulted : Nat
  errorQueue : List Incoming
  log : List LogEntry
  measures : List Measure

inductive Refusal where
  | settings (error : ConfigError)
  | tooManyPermits (log : List LogEntry)
  | endless

def buildFailed (e : ConfigError) : List String := ["Failed to build receive pipeline", e.message]

def readyEntries (s : Settings) (p : ReceivePipeline) (sent : Nat) : List LogEntry :=
  [ReceivePipeline.builtEntry s p,
   entry .info "Receive pipeline ready" [("stages", .text (Text.quotedList p.stageNames))],
   entry .info "Demo batch sent" [("count", .number sent), ("address", .text s.address)]]

def launch (s : Settings) (ids : Nat → String) (plan : ReceiverPlan Office) : Receiver Office :=
  let start : Receiver Office :=
    .create plan (.mailbox (.ofMillis 100)) (.ofCapacity s.capacity.toNat) {}
  { start with exchange := (batch ids).foldl (fun x m => x.send s.address m) start.exchange }

def run (s : Settings) (ids : Nat → String) (clock : Clock) (stopAt : Option Nat) :
    Except Refusal Summary := do
  let pipeline ← (ReceivePipeline.build s none
    [.ofHandler 0 StockRoom.handlerName]).mapError Refusal.settings
  let sent := (batch ids).length
  let ready := readyEntries s pipeline sent
  if permitLimit < s.concurrency.toNat then throw (.tooManyPermits ready)
  let plan : ReceiverPlan Office :=
    { pipeline, host := host clock, rest := .ofMillis 50, concurrency := s.concurrency.toNat }
  let (scene, seen) := Scene.run plan (watcher sent stopAt) ⟨launch s ids plan, ()⟩
  let r := scene.receiver
  if r.stage ≠ .stopped then throw .endless
  return {
    sent, reserved := r.host.room.reserved, faulted := r.host.faulted
    errorQueue := (r.exchange.mailbox s.errorQueue).messages
    log := ready ++ seen.filterMap (·.2.logged?)
    measures := seen.filterMap (·.2.measure?) }

end Redelivery.Demo
