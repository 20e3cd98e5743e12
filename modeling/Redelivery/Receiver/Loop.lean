import Redelivery.Receiver.State

/-! The loop of a receiver, stage by stage. Between the stages that wait it looks at the signal
first: a change sends it back to the top, or out of a rest, and the owner's going ends it. After
a failed receive it rests longer each time, up to half a minute. -/
namespace Redelivery.Receiver

variable {τ : Type}

def shutdownEntry : LogEntry :=
  { level := .info, text := "Received shutdown signal, stopping receiver" }

def stoppedEntry : LogEntry := { level := .info, text := "Message receiver stopped" }

def startEntry (p : ReceiverPlan τ) : LogEntry :=
  { level := .info, text := "Starting message receiver",
    fields := [("endpoint", .text p.pipeline.address), ("max_concurrency", .number p.permits),
               ("poll_interval_ms", .number p.rest.millis64)] }

def backoff (k : Nat) : Nat := min (Nat.pow 2 (min k 5)) 30

def backoffEntry (failure : Failure) (k : Nat) : LogEntry :=
  { level := .warn, text := "Failed to receive message, backing off",
    fields := [("error", .text failure.text), ("consecutive_errors", .number k),
               ("backoff_secs", .number (backoff k))] }

def goTo (r : Receiver τ) (stage : LoopStage) (seen : List Happening := []) : Turn τ :=
  { receiver := { r with stage }, seen, goesOn := true }

def stay (r : Receiver τ) : Turn τ := { receiver := r }

def heed (r : Receiver τ) : Option (Turn τ) :=
  match r.signal.news with
  | .none => none
  | .gone => some (r.goTo .draining)
  | .changed => some ({ r with signal := r.signal.seen }.goTo .top)

def rest (r : Receiver τ) (length : Duration) (seen : List Happening) : Turn τ :=
  let time := r.exchange.agenda.due length
  let exchange := if length.isZero then r.exchange else r.exchange.sleepUntil .receiver time
  { r with exchange }.goTo (.resting time) seen

def take (p : ReceiverPlan τ) (r : Receiver τ) : Polled → Turn τ
  | .message m =>
    let task : Task := { number := r.nextTask, message := m }
    let r := { r with failures := 0, tasks := r.tasks ++ [task], nextTask := r.nextTask + 1 }
    (r.wake (.settler task.number)).goTo .reaping [.received (some m.id) none]
  | .nothing => r.release.rest p.rest [.received none none]
  | .failed failure =>
    let k := r.failures + 1
    { r with failures := k }.release.rest (.ofSeconds (backoff k))
      [.received none (some failure), .logged (backoffEntry failure k)]

/-- A mailbox that has nothing for the loop is not worth a note. -/
def takeFromMailbox (p : ReceiverPlan τ) (r : Receiver τ) : Option Incoming → Turn τ
  | some m => r.take p (.message m)
  | none => r.release.rest p.rest []

def ask (p : ReceiverPlan τ) (r : Receiver τ) : Turn τ :=
  match r.source with
  | .scripted script =>
    let (polled, script) := script.nextReceive
    { r with source := .scripted script }.take p polled
  | .mailbox poll =>
    match r.exchange.tryReceive p.pipeline.address with
    | (some m, exchange) => { r with exchange }.takeFromMailbox p m
    | (none, exchange) =>
      let time := exchange.agenda.due poll
      { r with exchange := exchange.listen p.pipeline.address time }.goTo (.listening time)

def reap (r : Receiver τ) : List Happening :=
  r.finished.filterMap fun (task, panic) => panic.map fun text =>
    .logged { level := .error, text := "Message task panicked",
              fields := [("error", .text (panicText task text))] }

def loopTurn (p : ReceiverPlan τ) (r : Receiver τ) : Turn τ :=
  match r.stage with
  | .top =>
    if r.signal.value then r.goTo .draining [.logged shutdownEntry] else r.goTo .acquiring
  | .acquiring =>
    match r.heed with
    | some turn => turn
    | none => if r.free = 0 then r.stay else { r with free := r.free - 1 }.goTo .receiving
  | .receiving =>
    match r.release.heed with
    | some turn => turn
    | none => r.ask p
  | .listening time =>
    let gone := { r with exchange := r.exchange.leave p.pipeline.address }
    match gone.release.heed with
    | some turn => turn
    | none =>
      match r.exchange.hear p.pipeline.address time with
      | (some m, exchange) => { r with exchange }.takeFromMailbox p m
      | (none, _) => r.stay
  | .resting time =>
    let awake := { r with exchange := r.exchange.cancel .receiver }
    match awake.heed with
    | some turn =>
      if turn.receiver.stage = .draining then turn
      else turn.receiver.goTo (if turn.receiver.signal.value then .draining else .reaping)
    | none => if time ≤ r.exchange.now then awake.goTo .reaping else r.stay
  | .reaping => { r with finished := [] }.goTo .top r.reap
  | .draining =>
    let reaped := { r with finished := [] }
    if r.tasks.isEmpty then
      { receiver := { reaped with stage := .stopped }, seen := r.reap ++ [.logged stoppedEntry] }
    else { receiver := reaped, seen := r.reap }
  | .stopped => r.stay

end Redelivery.Receiver
