import Redelivery.Alarm
import Redelivery.Metrics
import Redelivery.Pipeline.Flow

/-! The surroundings of deliveries. The table of failures is shared by all deliveries; handlers,
host policies and the dispatcher answer as they like, on a state of their own. A flow runs to its
end in a world and leaves the events that can be seen from outside, in order. -/
namespace Redelivery

inductive Event where
  | entered (stage messageId : String)
  | called (name : String) (call : Nat) (message : Incoming)
  /-- A policy was asked; a number is that of the host's policy. -/
  | consulted (host : Option Nat) (question : DelayQuestion) (answer : Option Duration)
  | dispatched (op : Operation) (failed : Option Failure)
  | notified (n : Notification)
  | critical (text : String) (failure : Failure)
  | logged (entry : LogEntry)
  | observed (o : Observation)

namespace Event

def logged? : Event → Option LogEntry
  | .entered stage messageId =>
    some { level := .trace, text := "Invoking stage",
           fields := [("stage", .text stage), ("message_id", .text messageId)] }
  | .critical text failure => some (Alarm.entry text failure)
  | .logged entry => some entry
  | _ => none

def measure? : Event → Option Measure
  | .notified n => some (.notified n)
  | .critical .. => some .critical
  | _ => none

end Event

structure DispatchReply where
  failure : Option Failure := none
  log : List LogEntry := []

/-- What the host of an endpoint brings along, acting on a state of its own. -/
structure Host (σ : Type) where
  handle : Nat → Incoming → σ → Handling × σ
  consult : Nat → DelayQuestion → σ → Option Duration × σ
  now : σ → Instant
  notified : Notification → σ → σ := fun _ s => s
  alarm : String → Failure → List LogEntry := fun _ _ => []

structure Outside (σ : Type) extends Host σ where
  dispatch : Operation → σ → DispatchReply × σ

structure World (σ : Type) where
  table : FailureTable
  outside : σ

namespace Outside
variable {σ : Type}

def answerPolicy (o : Outside σ) (policy : DelayPolicy) (q : DelayQuestion) (s : σ) :
    Option Duration × σ × List Event :=
  match policy with
  | .linear retries increase =>
    let delay := DelayPolicy.linearDelay retries increase q.retry
    (delay, s, [.consulted none q delay])
  | .ofMessage schedule =>
    let delay := DelayPolicy.nonZero (schedule.delayFor q.message)
    (delay, s, (schedule.log q.message).map .logged ++ [.consulted none q delay])
  | .host number =>
    let (delay, s) := o.consult number q s
    (delay, s, [.consulted (some number) q delay])

/-- The answer to a request, the world after it, and what can be seen of it. -/
def answer (o : Outside σ) (w : World σ) : (r : Request) → r.Answer × World σ × List Event
  | .enter stage messageId => ((), w, [.entered stage messageId])
  | .lookup id => (w.table.lookup id, w, [])
  | .record id failure toErrorQueue toDelay =>
    let (table, dropped) := w.table.record id failure toErrorQueue toDelay
    ((), { w with table }, (table.evictionLog dropped).map .logged)
  | .clear id => ((), { w with table := w.table.clear id }, [])
  | .handle slot name message =>
    let (handling, outside) := o.handle slot message w.outside
    (handling, { w with outside }, [.called name handling.call message])
  | .pause _ => ((), w, [])
  | .consult policy question =>
    let (delay, outside, events) := o.answerPolicy policy question w.outside
    (delay, { w with outside }, events)
  | .dispatch op =>
    let (reply, outside) := o.dispatch op w.outside
    (reply.failure, { w with outside },
      reply.log.map .logged ++ [.dispatched op reply.failure])
  | .now => (o.now w.outside, w, [])
  | .notify n => ((), { w with outside := o.notified n w.outside }, [.notified n])
  | .critical text failure =>
    ((), w, .critical text failure :: (o.alarm text failure).map .logged)
  | .log entry => ((), w, [.logged entry])
  | .observe seen => ((), w, [.observed seen])

end Outside

inductive Ended (α : Type) where
  | done (a : α)
  | panicked (text : String)

structure Run (σ α : Type) where
  ended : Ended α
  world : World σ
  events : List Event

def Run.after {σ α : Type} (events : List Event) (r : Run σ α) : Run σ α :=
  { r with events := events ++ r.events }

namespace Flow
variable {σ α β : Type}

/-- Runs a flow to its end; pauses take no time. -/
def run (o : Outside σ) : Flow α → World σ → Run σ α
  | .done a, w => ⟨.done a, w, []⟩
  | .panicked text, w => ⟨.panicked text, w, []⟩
  | .ask r next, w =>
    let (a, w', events) := o.answer w r
    (run o (next a) w').after events

inductive Stop (α : Type) where
  | ended (e : Ended α)
  | paused (length : Duration) (rest : Flow α)

/-- Runs a flow up to its next pause of any length. -/
def advance (o : Outside σ) : Flow α → World σ → Stop α × World σ × List Event
  | .done a, w => (.ended (.done a), w, [])
  | .panicked text, w => (.ended (.panicked text), w, [])
  | .ask (.pause length) next, w =>
    if length.isZero then advance o (next ()) w else (.paused length (next ()), w, [])
  | .ask r next, w =>
    let (a, w', events) := o.answer w r
    let (stop, w'', later) := advance o (next a) w'
    (stop, w'', events ++ later)

theorem run_bind (o : Outside σ) (x : Flow α) (f : α → Flow β) (w : World σ) :
    (x.bind f).run o w =
      match x.run o w with
      | ⟨.done a, w', events⟩ => ((f a).run o w').after events
      | ⟨.panicked text, w', events⟩ => ⟨.panicked text, w', events⟩ := by
  induction x generalizing w with
  | done a => simp [bind, run, Run.after]
  | panicked text => rfl
  | ask r next ih =>
    simp only [bind, run, ih]
    generalize run o (next (o.answer w r).1) (o.answer w r).2.1 = first
    obtain ⟨ended, w', events⟩ := first
    cases ended with
    | done a => simp [Run.after, List.append_assoc]
    | panicked text => rfl

end Flow
end Redelivery
