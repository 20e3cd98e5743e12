import Redelivery.Proofs.Receiver.TurnCases
import Redelivery.Proofs.Transport.HeldMessages
import Redelivery.Receiver.Run

/-! What a turn does to the messages that a receiver holds. A turn of the loop leaves all of them
where they are, or it takes one out of the mailbox and opens a task for it. -/
namespace Redelivery

namespace Exchange
variable {x : Exchange} {s : Settings} {address : String} {m : Incoming}

theorem transport_after (x : Exchange) (change : Transport × Bool) :
    (x.after change).transport = change.1 := by
  simp only [after]
  split <;> rfl

theorem pushed_push (x : Exchange) (address : String) (m : Incoming) :
    Transport.Pushed x.transport (x.push address m).transport address m := by
  unfold push
  rw [transport_after]
  exact Transport.pushed_push x.transport address m

theorem held_dispatch (sorted : x.transport.Sorted s.address) {op : Operation}
    (kind : op.IsDelayedCopy s ∨ op.IsForward s) :
    (x.dispatch op).2.transport.Sorted s.address ∧
      match (x.dispatch op).1.failure with
      | some _ => (x.dispatch op).2.transport = x.transport
      | none => ∀ id, (x.dispatch op).2.transport.held s id =
          x.transport.held s id + [op.message.id].count id := by
  have held := Transport.held_post sorted kind
  unfold dispatch
  cases posted : x.transport.post op with
  | mk transport posting =>
    rw [posted] at held
    cases posting with
    | refused failure => exact ⟨sorted, rfl⟩
    | arrived roused =>
      simp only [transport_after]
      exact held
    | onItsWay number => exact held

theorem held_courierTurn (sorted : x.transport.Sorted s.address) (number : Nat) :
    (x.courierTurn number).transport.Sorted s.address ∧
      ∀ id, (x.courierTurn number).transport.held s id = x.transport.held s id := by
  unfold courierTurn
  cases found : x.transport.parcel? number with
  | none => exact ⟨sorted, fun _ => rfl⟩
  | some p =>
    by_cases started : p.started
    · simp only [started, if_true, transport_after]
      exact Transport.held_deliver sorted (Transport.parcel?_label found).1
    · simp only [started]
      have unmoved := Transport.unmoved_start x.transport number
      exact ⟨sorted.of_same unmoved.labels unmoved.next, unmoved.held s⟩

def Gave (x x' : Exchange) (address : String) : Option Incoming → Prop
  | some m => Transport.Popped x.transport x'.transport address m
  | none => Transport.Unmoved x.transport x'.transport

theorem gave_pop (x : Exchange) {b : Mailbox} (address : String)
    (same : b.messages = x.transport.messagesAt address) :
    x.Gave (x.setMailbox address b.pop.2) address b.pop.1 := by
  unfold Mailbox.pop
  cases waiting : b.messages with
  | nil => exact Transport.unmoved_setMailbox same
  | cons m rest =>
    rw [waiting] at same
    exact Transport.popped_setMailbox same.symm

theorem tryReceive_gave {x' : Exchange} {found : Option (Option Incoming)}
    (received : x.tryReceive address = (found, x')) :
    match found with
    | some m => x.Gave x' address m
    | none => x' = x := by
  have gave := x.gave_pop (b := x.mailbox address) address rfl
  unfold tryReceive at received
  unfold Mailbox.pop at gave received
  cases waiting : (x.mailbox address).messages with
  | nil =>
    simp only [waiting] at gave received
    split at received
    · cases received
      exact Transport.unmoved_setMailbox waiting.symm
    · cases received
      rfl
  | cons m rest =>
    simp only [waiting] at gave received
    cases received
    exact gave

theorem hear_gave {x' : Exchange} {found : Option Incoming} {time : Nat}
    (heard : x.hear address time = (some found, x')) : x.Gave x' address found := by
  simp only [hear] at heard
  split at heard
  · cases heard
    exact x.gave_pop (b := (x.mailbox address).answer) address rfl
  · split at heard
    · cases heard
      exact x.gave_pop (b := (x.mailbox address).leave) address rfl
    · cases heard

theorem unmoved_listen (x : Exchange) (address : String) (time : Nat) :
    Transport.Unmoved x.transport (x.listen address time).transport :=
  Transport.unmoved_setMailbox rfl

theorem unmoved_leave (x : Exchange) (address : String) :
    Transport.Unmoved x.transport (x.leave address).transport :=
  Transport.unmoved_setMailbox rfl

end Exchange

namespace Receiver
variable {τ : Type} {p : ReceiverPlan τ} {r r' r'' : Receiver τ} {address : String}

/-- The same tasks, and all messages where they were. -/
structure Kept (r r' : Receiver τ) : Prop where
  goods : Transport.Unmoved r.exchange.transport r'.exchange.transport
  tasks : r'.tasks = r.tasks
  nextTask : r'.nextTask = r.nextTask
  source : r'.source = r.source

theorem Kept.refl (r : Receiver τ) : Kept r r := ⟨.refl _, rfl, rfl, rfl⟩

theorem Kept.trans (first : Kept r r') (second : Kept r' r'') : Kept r r'' where
  goods := first.goods.trans second.goods
  tasks := second.tasks.trans first.tasks
  nextTask := second.nextTask.trans first.nextTask
  source := second.source.trans first.source

theorem kept_wakeLoopIf (r : Receiver τ) (waits : Bool) : Kept r (r.wakeLoopIf waits) := by
  cases waits <;> exact ⟨.refl _, rfl, rfl, rfl⟩

theorem kept_release (r : Receiver τ) : Kept r r.release := by
  have same : Kept r { r with free := r.free + 1 } := ⟨.refl _, rfl, rfl, rfl⟩
  exact same.trans (kept_wakeLoopIf _ _)

theorem kept_goTo (r : Receiver τ) (stage : LoopStage) (seen : List Happening) :
    Kept r (r.goTo stage seen).receiver := ⟨.refl _, rfl, rfl, rfl⟩

theorem kept_rest (r : Receiver τ) (length : Duration) (seen : List Happening) :
    Kept r (r.rest length seen).receiver := by
  simp only [rest, goTo]
  split <;> exact ⟨.refl _, rfl, rfl, rfl⟩

inductive LoopEffect (address : String) (r r' : Receiver τ) : Prop where
  | kept (kept : Kept r r')
  | took {m : Incoming}
      (popped : Transport.Popped r.exchange.transport r'.exchange.transport address m)
      (tasks : r'.tasks = r.tasks ++ [{ number := r.nextTask, message := m }])
      (nextTask : r'.nextTask = r.nextTask + 1) (source : r'.source = r.source)

theorem effect_takeFromMailbox (p : ReceiverPlan τ) (r : Receiver τ) {x : Exchange}
    {found : Option Incoming} (gave : r.exchange.Gave x address found) :
    LoopEffect address r (takeFromMailbox p { r with exchange := x } found).receiver := by
  cases found with
  | some m => exact .took gave rfl rfl rfl
  | none =>
    have first : Kept r { r with exchange := x } := ⟨gave, rfl, rfl, rfl⟩
    exact .kept ((first.trans (kept_release _)).trans (kept_rest _ _ _))

theorem kept_withdrawn (p : ReceiverPlan τ) (r : Receiver τ) : Kept r (r.withdrawn p) := by
  unfold withdrawn
  split
  · exact kept_release r
  · have gone : Kept r { r with exchange := r.exchange.leave p.pipeline.address } :=
      ⟨Exchange.unmoved_leave _ _, rfl, rfl, rfl⟩
    exact gone.trans (kept_release _)
  · exact ⟨.refl _, rfl, rfl, rfl⟩
  · exact .refl r

/-- A turn of the loop takes at most one message, which its new task holds. -/
theorem effect_loopTurn {poll : Duration} (mailbox : r.source = .mailbox poll) :
    LoopEffect p.pipeline.address r (r.loopTurn p).receiver := by
  have step := step_loopTurn p r
  have withdrawn := kept_withdrawn p r
  generalize r.loopTurn p = turn at step ⊢
  cases step with
  | polls receiving quiet source => cases mailbox.symm.trans source
  | finds receiving quiet source tried =>
    exact effect_takeFromMailbox p r (Exchange.tryReceive_gave tried)
  | hears listening quiet heard => exact effect_takeFromMailbox p r (Exchange.hear_gave heard)
  | @listens poll x receiving quiet source tried =>
    have same := Exchange.tryReceive_gave tried
    have unmoved := Exchange.unmoved_listen x p.pipeline.address (x.agenda.due poll)
    exact .kept ⟨same ▸ unmoved, rfl, rfl, rfl⟩
  | left waits gone => exact .kept (withdrawn.trans (kept_goTo _ _ _))
  | recalled waits awake changed =>
    exact .kept ⟨withdrawn.goods, withdrawn.tasks, withdrawn.nextTask, withdrawn.source⟩
  | roused resting changed =>
    exact .kept ⟨withdrawn.goods, withdrawn.tasks, withdrawn.nextTask, withdrawn.source⟩
  | _ => exact .kept ⟨.refl _, rfl, rfl, rfl⟩

theorem task?_mem {number : Nat} {t : Task} (found : r.task? number = some t) :
    t ∈ r.tasks ∧ t.number = number := by
  unfold task? at found
  exact ⟨List.mem_of_find?_eq_some found, by simpa using List.find?_some found⟩

structure Closed (r r' : Receiver τ) (number : Nat) : Prop where
  tasks : r'.tasks = r.tasks.filter (·.number ≠ number)
  nextTask : r'.nextTask = r.nextTask
  source : r'.source = r.source

theorem transport_wakeLoopIf (r : Receiver τ) (waits : Bool) :
    (r.wakeLoopIf waits).exchange.transport = r.exchange.transport := by
  cases waits <;> rfl

theorem transport_finish (r : Receiver τ) (number : Nat) (panic : Option String) :
    (r.finish number panic).exchange.transport = r.exchange.transport := by
  unfold finish release
  rw [transport_wakeLoopIf, transport_wakeLoopIf]

theorem closed_finish (r : Receiver τ) (number : Nat) (panic : Option String) :
    Closed r (r.finish number panic) number := by
  let left : Receiver τ := { r with
    tasks := r.tasks.filter (·.number ≠ number), finished := r.finished ++ [(number, panic)] }
  have kept : Kept left (r.finish number panic) :=
    (kept_release left).trans (kept_wakeLoopIf _ _)
  exact ⟨kept.tasks, kept.nextTask, kept.source⟩

inductive SettlerEffect (p : ReceiverPlan τ) (number : Nat) (r r' : Receiver τ) : Prop where
  | kept (unsettled : ∀ t n, r.task? number = some t → t.phase ≠ .processed (.done (.settled n)))
      (kept : Kept r r')
  | started {t : Task} {time : Nat} (found : r.task? number = some t)
      (fresh : t.phase = .received)
      (kept : Kept (r.setPhase number (.processing (p.pipeline.process t.message) time)) r')
  | completed {t : Task} {deliveries : Nat} (found : r.task? number = some t)
      (settled : t.phase = .processed (.done (.settled deliveries)))
      (goods : Transport.Unmoved r.exchange.transport r'.exchange.transport)
      (closed : Closed r r' number)
  | abandoned {t : Task} {result : Ended Processed} (found : r.task? number = some t)
      (failed : t.phase = .processed result)
      (unsettled : ∀ deliveries, result ≠ .done (.settled deliveries))
      (pushed : Transport.Pushed r.exchange.transport r'.exchange.transport p.pipeline.address
        t.message)
      (closed : Closed r r' number)

theorem completed_complete {poll : Duration} (source : r.source = .mailbox poll) (t : Task)
    (seen : List Happening) :
    Transport.Unmoved r.exchange.transport
        (r.complete p t seen).receiver.exchange.transport ∧
      Closed r (r.complete p t seen).receiver t.number := by
  unfold complete
  simp only
  split
  · rename_i script scripted
    cases source.symm.trans scripted
  · unfold conclude
    refine ⟨?_, ?_⟩
    · simp only [transport_finish]
      exact Transport.unmoved_setMailbox rfl
    · let x := r.exchange.setMailbox p.pipeline.address
        (r.exchange.mailbox p.pipeline.address).complete
      have closed := closed_finish { r with exchange := x } t.number none
      exact ⟨closed.tasks, closed.nextTask, closed.source⟩

theorem pushed_abandon {poll : Duration} (source : r.source = .mailbox poll) (t : Task)
    (seen : List Happening) :
    Transport.Pushed r.exchange.transport (r.abandon p t seen).receiver.exchange.transport
        p.pipeline.address t.message ∧
      Closed r (r.abandon p t seen).receiver t.number := by
  unfold abandon
  simp only
  split
  · rename_i script scripted
    cases source.symm.trans scripted
  · unfold conclude
    refine ⟨?_, ?_⟩
    · simp only [transport_finish]
      exact Exchange.pushed_push _ _ _
    · let x := r.exchange.push p.pipeline.address t.message
      have closed := closed_finish { r with exchange := x } t.number none
      exact ⟨closed.tasks, closed.nextTask, closed.source⟩

theorem effect_settlerTurn {poll : Duration} (source : r.source = .mailbox poll) (number : Nat) :
    SettlerEffect p number r (r.settlerTurn p number).receiver := by
  have step := step_settlerTurn p r number
  generalize r.settlerTurn p number = turn at step ⊢
  cases step with
  | idle busy =>
    refine .kept (fun t n found settled => ?_) (.refl r)
    obtain ⟨rest, time, processing⟩ := busy t found
    cases settled.symm.trans processing
  | starts found fresh => exact .started found fresh ⟨.refl _, rfl, rfl, rfl⟩
  | @settles t result found ended =>
    have same := (task?_mem found).2
    have given (seen : List Happening) := same ▸ pushed_abandon (p := p) source t seen
    cases result with
    | panicked text => exact .abandoned found ended nofun (given _).1 (given _).2
    | done result =>
      cases result with
      | settled deliveries =>
        obtain ⟨goods, closed⟩ := completed_complete (p := p) source t _
        exact .completed found ended goods (same ▸ closed)
      | failed failure => exact .abandoned found ended nofun (given _).1 (given _).2

end Receiver
end Redelivery
