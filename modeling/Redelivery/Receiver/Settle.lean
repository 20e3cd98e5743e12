import Redelivery.Receiver.State

/-! Messages in flight. Each is processed by a worker, and a settler tells the source what became
of it: done with when the pipeline settled it, given back as received when the pipeline failed
or panicked. Whatever the source makes of the news, the permit is given back. -/
namespace Redelivery

def Host.onExchange {τ : Type} (h : Host τ) : Outside (Exchange × τ) where
  handle slot m s :=
    let (handling, t) := h.handle slot m s.2
    (handling, s.1, t)
  consult policy q s :=
    let (delay, t) := h.consult policy q s.2
    (delay, s.1, t)
  now s := h.now s.2
  notified n s := (s.1, h.notified n s.2)
  alarm := h.alarm
  dispatch op s :=
    let (reply, x) := s.1.dispatch op
    (reply, x, s.2)

namespace Receiver

variable {τ : Type}

def task? (r : Receiver τ) (number : Nat) : Option Task := r.tasks.find? (·.number = number)

def setPhase (r : Receiver τ) (number : Nat) (phase : TaskPhase) : Receiver τ :=
  { r with tasks := r.tasks.map fun t => if t.number = number then { t with phase } else t }

def work (p : ReceiverPlan τ) (r : Receiver τ) (number : Nat) (rest : Flow Processed) : Turn τ :=
  let (stop, world, events) := rest.advance p.host.onExchange ⟨r.table, r.exchange, r.host⟩
  let r := { r with table := world.table, exchange := world.outside.1, host := world.outside.2 }
  let seen := events.map .delivery
  match stop with
  | .ended result =>
    { receiver := (r.setPhase number (.processed result)).wake (.settler number), seen }
  | .paused length rest =>
    let time := r.exchange.agenda.due length
    let exchange := r.exchange.sleepUntil (.worker number) time
    { receiver := { r with exchange }.setPhase number (.processing rest time), seen }

def workerTurn (p : ReceiverPlan τ) (r : Receiver τ) (number : Nat) : Turn τ :=
  match r.task? number with
  | some { phase := .processing rest time, .. } =>
    if time ≤ r.exchange.now then r.work p number rest else { receiver := r }
  | _ => { receiver := r }

def finish (r : Receiver τ) (number : Nat) (panic : Option String) : Receiver τ :=
  { r with tasks := r.tasks.filter (·.number ≠ number),
           finished := r.finished ++ [(number, panic)] }.release.wakeLoopIf
    (r.stage = LoopStage.draining)

def sourceEntry (text id : String) (failure : Failure) : LogEntry :=
  { level := .error, text, fields := [("message_id", .text id), ("error", .text failure.text)] }

/-- A task is over once the source has taken its news, or not. -/
def conclude (r : Receiver τ) (t : Task) (complaint : String) (seen : List Happening) :
    Receipt → Turn τ
  | .accepted => { receiver := r.finish t.number none, seen }
  | .failed failure =>
    { receiver := r.finish t.number none
      seen := seen ++ [.logged (sourceEntry complaint t.message.id failure)] }
  | .panicked text => { receiver := r.finish t.number (some text), seen }

def complete (p : ReceiverPlan τ) (r : Receiver τ) (t : Task) (seen : List Happening) : Turn τ :=
  let seen := seen ++ [.completed t.message.id]
  let complaint := "Failed to complete message"
  match r.source with
  | .scripted script =>
    let (receipt, script) := script.nextComplete
    { r with source := .scripted script }.conclude t complaint seen receipt
  | .mailbox _ =>
    let address := p.pipeline.address
    let exchange := r.exchange.setMailbox address (r.exchange.mailbox address).complete
    { r with exchange }.conclude t complaint seen .accepted

def abandon (p : ReceiverPlan τ) (r : Receiver τ) (t : Task) (seen : List Happening) : Turn τ :=
  let seen := seen ++ [.abandoned t.message]
  let complaint := "Failed to abandon message"
  match r.source with
  | .scripted script =>
    let (receipt, script) := script.nextAbandon
    { r with source := .scripted script }.conclude t complaint seen receipt
  | .mailbox _ =>
    let exchange := r.exchange.push p.pipeline.address t.message
    { r with exchange }.conclude t complaint seen .accepted

def settledEntry (id : String) (deliveries : Nat) : LogEntry :=
  { level := .debug, text := "Message settled",
    fields := [("message_id", .text id), ("deliveries", .number deliveries)] }

def failedEntry (id : String) (failure : Failure) : LogEntry :=
  { level := .error, text := "Pipeline failed, returning message to the queue",
    fields := [("message_id", .text id), ("error", .text failure.text),
               ("category", .text failure.category.name)] }

def panickedEntry (id : String) (task : Nat) (text : String) : LogEntry :=
  { level := .error, text := "Message processing panicked, returning message to the queue",
    fields := [("message_id", .text id), ("error", .text (panicText task text))] }

def settle (p : ReceiverPlan τ) (r : Receiver τ) (t : Task) : Ended Processed → Turn τ
  | .done (.settled deliveries) =>
    r.complete p t [.measured .succeeded, .logged (settledEntry t.message.id deliveries)]
  | .done (.failed failure) =>
    r.abandon p t [.measured (.failed failure.category), .logged (failedEntry t.message.id failure)]
  | .panicked text =>
    r.abandon p t
      [.measured (.failed .handler), .logged (panickedEntry t.message.id t.number text)]

def settlerTurn (p : ReceiverPlan τ) (r : Receiver τ) (number : Nat) : Turn τ :=
  match r.task? number with
  | some ⟨_, m, .received⟩ =>
    let phase := .processing (p.pipeline.process m) r.exchange.now
    { receiver := (r.setPhase number phase).wake (.worker number) }
  | some t@{ phase := .processed result, .. } => r.settle p t result
  | _ => { receiver := r }

end Receiver
end Redelivery
