import Mathlib.Data.List.Nodup
import Redelivery.Proofs.Delivery.Interleaving
import Redelivery.Proofs.Receiver.Turns

/-! A receiver at work, with a record of what happened. Anybody may take the next step: the loop, a
settler, a worker who gets the answer to a single request, a courier, whoever sends messages, makes
queues unavailable or changes the signal. The clock may show any time at any step, so that timers
expire in all orders. -/
namespace Redelivery

namespace Receiver
variable {τ : Type}

def answered (p : ReceiverPlan τ) (r : Receiver τ) (number : Nat) (request : Request)
    (next : request.Answer → Flow Processed) (time : Nat) : Receiver τ :=
  let answered := p.host.onExchange.answer ⟨r.table, r.exchange, r.host⟩ request
  let world := answered.2.1
  let r := { r with table := world.table, exchange := world.outside.1, host := world.outside.2 }
  r.setPhase number (.processing (next answered.1) time)

def serve (p : ReceiverPlan τ) (r : Receiver τ) (number time : Nat) : Receiver τ × List Deed :=
  match r.task? number with
  | some { phase := .processing (.done result) _, .. } =>
    ((r.setPhase number (.processed (.done result))).wake (.settler number), [])
  | some { phase := .processing (.panicked text) _, .. } =>
    ((r.setPhase number (.processed (.panicked text))).wake (.settler number), [])
  | some { phase := .processing (.ask request next) _, .. } =>
    (r.answered p number request next time, (request.deed? (p.host.onExchange.answer
      ⟨r.table, r.exchange, r.host⟩ request).1).toList)
  | _ => (r, [])

theorem serve_idle (p : ReceiverPlan τ) (r : Receiver τ) (number time : Nat)
    (idle : ∀ t, r.task? number = some t → ∀ rest time, t.phase ≠ .processing rest time) :
    r.serve p number time = (r, []) := by
  unfold serve
  split
  · rename_i found
    exact absurd rfl (idle _ found _ _)
  · rename_i found
    exact absurd rfl (idle _ found _ _)
  · rename_i found
    exact absurd rfl (idle _ found _ _)
  · rfl

section working
variable (p : ReceiverPlan τ) {r : Receiver τ} {number : Nat} {t : Task} {due : Nat} (time : Nat)
  (found : r.task? number = some t)
include found

theorem serve_done {result : Processed} (phase : t.phase = .processing (.done result) due) :
    r.serve p number time =
      ((r.setPhase number (.processed (.done result))).wake (.settler number), []) := by
  obtain ⟨_, m, _⟩ := t
  cases phase
  unfold serve
  rw [found]

theorem serve_panicked {text : String} (phase : t.phase = .processing (.panicked text) due) :
    r.serve p number time =
      ((r.setPhase number (.processed (.panicked text))).wake (.settler number), []) := by
  obtain ⟨_, m, _⟩ := t
  cases phase
  unfold serve
  rw [found]

theorem serve_ask {request : Request} {next : request.Answer → Flow Processed}
    (phase : t.phase = .processing (.ask request next) due) :
    r.serve p number time = (r.answered p number request next time, (request.deed?
      (p.host.onExchange.answer ⟨r.table, r.exchange, r.host⟩ request).1).toList) := by
  obtain ⟨_, m, _⟩ := t
  cases phase
  unfold serve
  rw [found]

end working

end Receiver

inductive Move where
  | loop
  | settler (task : Nat)
  | worker (task time : Nat)
  | courier (parcel : Nat)
  | send (address : String) (m : Outgoing)
  | unavailable (address : String) (value : Bool)
  | signal (s : Signal)
  /-- The clock, the line and the timers are set. -/
  | agenda (a : Agenda Activity)

/-- A receiver with the messages sent from outside, the deeds of its tasks, and the messages that
were done with although nothing was sent for them. -/
structure Chronicle (τ : Type) where
  receiver : Receiver τ
  posted : List (String × Outgoing) := []
  deeds : List (Nat × Deed) := []
  handled : List (String × List Deed) := []

namespace Chronicle
variable {τ : Type}

def deedsOf (c : Chronicle τ) (number : Nat) : List Deed :=
  c.deeds.filterMap fun entry => if entry.1 = number then some entry.2 else none

def isIdle (c : Chronicle τ) (t : Task) : Bool := (tally (c.deedsOf t.number)).sent.isEmpty

def handledBy (c : Chronicle τ) (number : Nat) : List (String × List Deed) :=
  match c.receiver.task? number with
  | some t =>
    match t.phase with
    | .processed (.done (.settled _)) =>
      if c.isIdle t then [(t.message.id, c.deedsOf t.number)] else []
    | _ => []
  | none => []

def move (p : ReceiverPlan τ) (c : Chronicle τ) : Move → Chronicle τ
  | .loop => { c with receiver := (c.receiver.loopTurn p).receiver }
  | .settler number =>
    { c with receiver := (c.receiver.settlerTurn p number).receiver,
             handled := c.handled ++ c.handledBy number }
  | .worker number time =>
    let (receiver, deeds) := c.receiver.serve p number time
    { c with receiver, deeds := c.deeds ++ deeds.map fun deed => (number, deed) }
  | .courier number =>
    let r := c.receiver
    { c with receiver := { r with exchange := r.exchange.courierTurn number } }
  | .send address m =>
    let r := c.receiver
    { c with receiver := { r with exchange := r.exchange.send address m },
             posted := c.posted ++ [(address, m)] }
  | .unavailable address value =>
    let r := c.receiver
    { c with receiver := { r with exchange := r.exchange.setUnavailable address value } }
  | .signal s => { c with receiver := c.receiver.signalled fun _ => s }
  | .agenda agenda =>
    let r := c.receiver
    { c with receiver := { r with exchange := { r.exchange with agenda } } }

def start (p : ReceiverPlan τ) (poll : Duration) (table : FailureTable) (host : τ) : Chronicle τ :=
  { receiver := .create p (.mailbox poll) table host }

def after (p : ReceiverPlan τ) (c : Chronicle τ) (moves : List Move) : Chronicle τ :=
  moves.foldl (move p) c

end Chronicle

inductive Place where
  /-- In the mailbox of the endpoint. -/
  | waiting
  /-- On its way to the endpoint. -/
  | delayed
  /-- In a task that sent nothing for it. -/
  | inFlight
  | errorQueue
  /-- Done with by its handlers alone. -/
  | settled
  deriving DecidableEq

def Chronicle.idsAt {τ : Type} (c : Chronicle τ) (s : Settings) : Place → List String
  | .waiting => c.receiver.exchange.transport.idsAt s.address
  | .delayed => c.receiver.exchange.transport.delayedIds
  | .inFlight => (c.receiver.tasks.filter c.isIdle).map (·.message.id)
  | .errorQueue => c.receiver.exchange.transport.forwardedIds s
  | .settled => c.handled.map (·.1)

/-- All that there is of a message, in all places. -/
def Chronicle.census {τ : Type} (c : Chronicle τ) (s : Settings) (id : String) : Nat :=
  c.receiver.exchange.transport.held s id + (c.idsAt s .inFlight).count id +
    (c.idsAt s .settled).count id

def Chronicle.incoming {τ : Type} (c : Chronicle τ) (s : Settings) : List String :=
  (c.posted.filter fun post => post.1 = s.address ∨ post.1 = s.errorQueue).map (·.2.id)

def Task.Orderly (s : Settings) (names : List String) (t : Task) (ds : List Deed) : Prop :=
  match t.phase with
  | .received => ds = []
  | .processing rest _ => rest.conducts (Request.Orderly s t.message.id) (ProcessEnds names) ds
  | .processed result => ProcessEnds names ds result

theorem map_setPhase {τ : Type} {α : Type} (r : Receiver τ) (number : Nat) (phase : TaskPhase)
    (f : Task → α) (blind : ∀ (t : Task) (phase : TaskPhase), f { t with phase } = f t) :
    (r.setPhase number phase).tasks.map f = r.tasks.map f := by
  unfold Receiver.setPhase
  rw [List.map_map]
  apply List.map_congr_left
  intro t _
  simp only [Function.comp_apply]
  split
  · exact blind t phase
  · rfl

theorem mem_setPhase {τ : Type} {r : Receiver τ} {number : Nat} {phase : TaskPhase} {t : Task}
    (member : t ∈ (r.setPhase number phase).tasks) :
    (t.number = number ∧ ∃ old ∈ r.tasks, old.number = number ∧ t = { old with phase }) ∨
      t.number ≠ number ∧ t ∈ r.tasks := by
  obtain ⟨old, known, rfl⟩ := List.mem_map.1 member
  by_cases same : old.number = number
  · simp only [if_pos same]
    exact .inl ⟨same, old, known, same, rfl⟩
  · simp only [if_neg same]
    exact .inr ⟨same, known⟩

theorem eq_of_number {tasks : List Task} (apart : (tasks.map (·.number)).Nodup) {t t' : Task}
    (member : t ∈ tasks) (member' : t' ∈ tasks) (same : t.number = t'.number) : t = t' :=
  List.inj_on_of_nodup_map apart member member' same

theorem count_tasks {tasks : List Task} (apart : (tasks.map (·.number)).Nodup) {t : Task}
    (member : t ∈ tasks) (before after : Task → Bool) (was : before t = true)
    (gone : after t = false)
    (others : ∀ other ∈ tasks, other.number ≠ t.number → after other = before other)
    (id : String) :
    ((tasks.filter before).map (·.message.id)).count id =
      ((tasks.filter after).map (·.message.id)).count id + [t.message.id].count id := by
  have split := perm_cons_others apart member
  have whole := ((split.filter before).map (·.message.id)).count_eq id
  have fewer := ((split.filter after).map (·.message.id)).count_eq id
  have same : (tasks.filter (·.number ≠ t.number)).filter after =
      (tasks.filter (·.number ≠ t.number)).filter before := by
    apply List.filter_congr
    intro other known
    obtain ⟨member, different⟩ := List.mem_filter.1 known
    exact others other member (by simpa using different)
  rw [whole, fewer, List.filter_cons_of_pos was, List.filter_cons_of_neg (by simp [gone]), same,
    List.map_cons, List.count_cons, List.count_singleton]

end Redelivery
