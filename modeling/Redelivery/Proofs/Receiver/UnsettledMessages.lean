import Redelivery.Proofs.Transport.Calls
import Redelivery.Proofs.Receiver.Permits
import Redelivery.Proofs.Receiver.Schedules

/-! The messages that an endpoint still has to deal with: in its own mailbox, on their way to it, or
in a task that is not done with its message. The loop, the settlers and the couriers move them
about but lose none and add none, and they leave the table of failures and the host alone. -/
namespace Redelivery

namespace Transport
variable {t t' : Transport} {address other : String} {m : Incoming}

def coming (t : Transport) (address : String) : List Incoming :=
  t.messagesAt address ++ t.labels.map (·.2.2)

theorem Unmoved.coming (unmoved : Unmoved t t') (address : String) :
    t'.coming address = t.coming address := by
  rw [Transport.coming, unmoved.messages, unmoved.labels, Transport.coming]

theorem Pushed.coming (pushed : Pushed t t' address m) :
    (t'.coming address).Perm (m :: t.coming address) := by
  rw [Transport.coming, pushed.here, pushed.labels, List.append_assoc]
  exact List.perm_middle

theorem Pushed.coming_elsewhere (pushed : Pushed t t' other m) (away : address ≠ other) :
    t'.coming address = t.coming address := by
  rw [Transport.coming, pushed.elsewhere address away, pushed.labels, Transport.coming]

theorem Popped.coming (popped : Popped t t' address m) :
    t.coming address = m :: t'.coming address := by
  rw [Transport.coming, popped.here, Transport.coming, popped.labels]
  rfl

theorem Loaded.coming (loaded : Loaded t t' other m) (address : String) :
    (t'.coming address).Perm (m :: t.coming address) := by
  rw [Transport.coming, loaded.messages, loaded.labels, List.map_append, ← List.append_assoc]
  exact List.perm_append_singleton _ _

theorem coming_deliver (sorted : Sorted t address) {p : Parcel} (member : p ∈ t.parcels) :
    ((t.deliver p).1.coming address).Perm (t.coming address) ∧
      ∀ other, other ≠ address → (t.deliver p).1.messagesAt other = t.messagesAt other := by
  have here : p.address = address := sorted.bound p.label (List.mem_map_of_mem member)
  have pushed := t.pushed_deliver p
  rw [here] at pushed
  refine ⟨pushed.coming.trans ?_, pushed.elsewhere⟩
  have split : t.labels.Perm (p.label :: (t.without p).labels) :=
    (perm_cons_others sorted.apart_parcels member).map Parcel.label
  have arrived : (t.coming address).Perm (t.messagesAt address ++ p.message ::
      (t.without p).labels.map (·.2.2)) := (split.map (·.2.2)).append_left _
  exact (arrived.trans List.perm_middle).symm

end Transport

namespace Exchange
variable {x x' : Exchange} {address : String}

theorem coming_courierTurn (sorted : x.transport.Sorted address) (number : Nat) :
    (x.courierTurn number).transport.Sorted address ∧
      ((x.courierTurn number).transport.coming address).Perm (x.transport.coming address) ∧
      ∀ other, other ≠ address →
        (x.courierTurn number).transport.messagesAt other = x.transport.messagesAt other := by
  unfold courierTurn
  cases found : x.transport.parcel? number with
  | none => exact ⟨sorted, .refl _, fun _ _ => rfl⟩
  | some p =>
    by_cases started : p.started
    · simp only [started, if_true, transport_after]
      exact ⟨sorted.deliver p, Transport.coming_deliver sorted (Transport.parcel?_label found).1⟩
    · simp only [started]
      have unmoved := Transport.unmoved_start x.transport number
      exact ⟨sorted.of_same unmoved.labels unmoved.next, .of_eq (unmoved.coming address),
        fun other _ => unmoved.messages other⟩

theorem dispatch_moves (x : Exchange) {op : Operation}
    (available : x.transport.isAvailable op.destination = true) :
    Transport.Pushed x.transport (x.dispatch op).2.transport op.destination
        op.message.toIncoming ∨
      op.wait.isZero ≠ true ∧ Transport.Loaded x.transport (x.dispatch op).2.transport
        op.destination op.message.toIncoming := by
  by_cases prompt : op.wait.isZero = true
  · rw [(x.dispatch_prompt available prompt).2]
    exact .inl (pushed_push x op.destination op.message.toIncoming)
  · rw [(x.dispatch_delayed available prompt).2]
    exact .inr ⟨prompt, Transport.loaded_of x.transport
      ⟨x.transport.next, op.destination, op.message.toIncoming, op.wait, false⟩ rfl⟩

theorem coming_dispatch (sorted : x.transport.Sorted address) {op : Operation}
    (available : x.transport.isAvailable op.destination = true) (back : op.destination = address) :
    (x.dispatch op).2.transport.Sorted address ∧
      ((x.dispatch op).2.transport.coming address).Perm
        (op.message.toIncoming :: x.transport.coming address) ∧
      ∀ other, other ≠ address →
        (x.dispatch op).2.transport.messagesAt other = x.transport.messagesAt other := by
  subst back
  rcases x.dispatch_moves available with pushed | ⟨-, loaded⟩
  · exact ⟨sorted.of_same pushed.labels pushed.next, pushed.coming, pushed.elsewhere⟩
  · exact ⟨loaded.sorted sorted rfl, loaded.coming _, fun other _ => loaded.messages other⟩

theorem coming_dispatch_away (sorted : x.transport.Sorted address) {op : Operation}
    (available : x.transport.isAvailable op.destination = true) (away : address ≠ op.destination)
    (prompt : op.delays = []) :
    (x.dispatch op).2.transport.Sorted address ∧
      (x.dispatch op).2.transport.coming address = x.transport.coming address ∧
      (x.dispatch op).2.transport.messagesAt op.destination =
        x.transport.messagesAt op.destination ++ [op.message.toIncoming] := by
  rcases x.dispatch_moves available with pushed | ⟨waits, -⟩
  · exact ⟨sorted.of_same pushed.labels pushed.next, pushed.coming_elsewhere away, pushed.here⟩
  · refine absurd ?_ waits
    rw [Operation.wait, prompt]
    rfl

theorem unavailable_push (x : Exchange) (address : String) (m : Incoming) :
    (x.push address m).transport.unavailable = x.transport.unavailable := by
  rw [push, transport_after]
  rfl

theorem coming_sends (x : Exchange) (address : String) (messages : List Outgoing) :
    let x' := messages.foldl (fun x m => x.send address m) x
    x'.transport.messagesAt address =
        x.transport.messagesAt address ++ messages.map Outgoing.toIncoming ∧
      (∀ other, other ≠ address → x'.transport.messagesAt other = x.transport.messagesAt other) ∧
      x'.transport.labels = x.transport.labels ∧ x'.transport.next = x.transport.next ∧
      x'.transport.unavailable = x.transport.unavailable := by
  induction messages generalizing x with
  | nil => exact ⟨(List.append_nil _).symm, fun _ _ => rfl, rfl, rfl, rfl⟩
  | cons m rest ih =>
    have pushed := pushed_push x address m.toIncoming
    obtain ⟨here, elsewhere, labels, next, unavailable⟩ := ih (x.send address m)
    refine ⟨?_, fun other away => (elsewhere other away).trans (pushed.elsewhere other away),
      labels.trans pushed.labels, next.trans pushed.next,
      unavailable.trans (x.unavailable_push address m.toIncoming)⟩
    rw [List.foldl_cons, here, Exchange.send, pushed.here, List.append_assoc]
    rfl

theorem unavailable_dispatch (x : Exchange) (op : Operation) :
    (x.dispatch op).2.transport.unavailable = x.transport.unavailable := by
  cases available : x.transport.isAvailable op.destination with
  | false => rw [x.dispatch_refused available]
  | true =>
    by_cases prompt : op.wait.isZero = true
    · rw [(x.dispatch_prompt available prompt).2]
      exact x.unavailable_push op.destination op.message.toIncoming
    · rw [(x.dispatch_delayed available prompt).2]
      rfl

theorem unavailable_tryReceive (x : Exchange) (address : String) :
    (x.tryReceive address).2.transport.unavailable = x.transport.unavailable := by
  simp only [tryReceive]
  split
  · rfl
  · split <;> rfl

theorem unavailable_hear (x : Exchange) (address : String) (time : Nat) :
    (x.hear address time).2.transport.unavailable = x.transport.unavailable := by
  simp only [hear]
  split
  · rfl
  · split <;> rfl

end Exchange

theorem Signal.gone_of_news {s : Signal} (news : s.news = .gone) : s.gone = true := by
  unfold Signal.news at news
  split at news
  · cases news
  · split at news
    · assumption
    · cases news

namespace Receiver
variable {τ : Type} {p : ReceiverPlan τ} {r r' r'' : Receiver τ}

/-- The receiver is about to stop, or will be once its loop looks at the signal. -/
def IsStopping (r : Receiver τ) : Prop :=
  r.IsClosing ∨ r.signal.value = true ∨ r.signal.gone = true

/-- What is none of the business of loop, settlers and couriers has not changed, and nothing but the
signal made the receiver stop. -/
structure Quiet (r r' : Receiver τ) : Prop where
  table : r'.table = r.table
  host : r'.host = r.host
  unavailable : r'.exchange.transport.unavailable = r.exchange.transport.unavailable
  stopping : r'.IsStopping → r.IsStopping

theorem Quiet.refl (r : Receiver τ) : Quiet r r := ⟨rfl, rfl, rfl, id⟩

theorem Quiet.trans (first : Quiet r r') (later : Quiet r' r'') : Quiet r r'' where
  table := later.table.trans first.table
  host := later.host.trans first.host
  unavailable := later.unavailable.trans first.unavailable
  stopping stops := first.stopping (later.stopping stops)

theorem quiet_wakeLoopIf (r : Receiver τ) (waits : Bool) : Quiet r (r.wakeLoopIf waits) := by
  cases waits <;> exact ⟨rfl, rfl, rfl, id⟩

theorem quiet_release (r : Receiver τ) : Quiet r r.release := by
  have same : Quiet r { r with free := r.free + 1 } := ⟨rfl, rfl, rfl, id⟩
  exact same.trans (quiet_wakeLoopIf _ _)

theorem quiet_goTo (r : Receiver τ) {stage : LoopStage} (seen : List Happening)
    (why : stage = .draining ∨ stage = .stopped → r.IsStopping) :
    Quiet r (r.goTo stage seen).receiver where
  table := rfl
  host := rfl
  unavailable := rfl
  stopping
    | .inl closing => why closing
    | .inr told => .inr told

theorem quiet_rest (r : Receiver τ) (length : Duration) (seen : List Happening) :
    Quiet r (r.rest length seen).receiver := by
  have same (x : Exchange) (kept : x.transport.unavailable = r.exchange.transport.unavailable) :
      Quiet r { r with exchange := x } := ⟨rfl, rfl, kept, id⟩
  refine (same _ ?_).trans (quiet_goTo _ seen fun h => by cases h <;> contradiction)
  split <;> rfl

theorem quiet_takeFromMailbox (p : ReceiverPlan τ) (r : Receiver τ) (found : Option Incoming) :
    Quiet r (r.takeFromMailbox p found).receiver := by
  cases found with
  | none => exact (quiet_release r).trans (quiet_rest _ _ _)
  | some m =>
    exact ⟨rfl, rfl, rfl, fun stops => stops.imp_left fun h => by cases h <;> contradiction⟩

theorem quiet_withdrawn (p : ReceiverPlan τ) (r : Receiver τ) : Quiet r (r.withdrawn p) := by
  have same (x : Exchange) (kept : x.transport.unavailable = r.exchange.transport.unavailable) :
      Quiet r { r with exchange := x } := ⟨rfl, rfl, kept, id⟩
  unfold withdrawn
  split
  · exact quiet_release r
  · exact (same (r.exchange.leave p.pipeline.address) rfl).trans (quiet_release _)
  · exact same (r.exchange.cancel .receiver) rfl
  · exact .refl r

/-- A turn of the loop takes no part in the work, and the loop stops for the signal only. -/
theorem quiet_loopTurn {poll : Duration} (p : ReceiverPlan τ) (mailbox : r.source = .mailbox poll) :
    Quiet r (r.loopTurn p).receiver := by
  have step := step_loopTurn p r
  have withdrawn := quiet_withdrawn p r
  have same (x : Exchange) (kept : x.transport.unavailable = r.exchange.transport.unavailable) :
      Quiet r { r with exchange := x } := ⟨rfl, rfl, kept, id⟩
  have told : Quiet r { r.withdrawn p with signal := r.signal.seen } := by
    refine withdrawn.trans ⟨rfl, rfl, rfl, fun stops => ?_⟩
    simpa [IsStopping, IsClosing, Signal.seen] using stops
  generalize r.loopTurn p = turn at step ⊢
  cases step with
  | closes top flag => exact quiet_goTo r _ fun _ => .inr (.inl flag)
  | begins => exact quiet_goTo r _ fun h => by cases h <;> contradiction
  | blocked | hearsNothing | sleeps | stopped => exact .refl r
  | acquires =>
    have taken : Quiet r { r with free := r.free - 1 } := ⟨rfl, rfl, rfl, id⟩
    exact taken.trans (quiet_goTo _ _ fun h => by cases h <;> contradiction)
  | polls receiving quiet source => cases mailbox.symm.trans source
  | finds receiving quiet source tried =>
    have kept := r.exchange.unavailable_tryReceive p.pipeline.address
    rw [tried] at kept
    exact (same _ kept).trans (quiet_takeFromMailbox p _ _)
  | @listens poll x receiving quiet source tried =>
    have kept := r.exchange.unavailable_tryReceive p.pipeline.address
    rw [tried] at kept
    exact (same (x.listen p.pipeline.address _) kept).trans
      (quiet_goTo _ _ fun h => by cases h <;> contradiction)
  | @hears time found x listening quiet heard =>
    have kept := r.exchange.unavailable_hear p.pipeline.address time
    rw [heard] at kept
    exact (same x kept).trans (quiet_takeFromMailbox p _ _)
  | rises =>
    exact (same (r.exchange.cancel .receiver) rfl).trans
      (quiet_goTo _ _ fun h => by cases h <;> contradiction)
  | left waits news =>
    have gone : (r.withdrawn p).signal.gone = true := by
      rw [signal_withdrawn]
      exact Signal.gone_of_news news
    exact withdrawn.trans (quiet_goTo _ _ fun _ => .inr (.inr gone))
  | recalled => exact told.trans (quiet_goTo _ _ fun h => by cases h <;> contradiction)
  | roused =>
    refine told.trans (quiet_goTo _ _ fun draining => ?_)
    split at draining
    · rename_i flagged
      exact .inr (.inl flagged)
    · cases draining <;> contradiction
  | reaps =>
    have looked : Quiet r { r with finished := [] } := ⟨rfl, rfl, rfl, id⟩
    exact looked.trans (quiet_goTo _ _ fun h => by cases h <;> contradiction)
  | stops draining => exact ⟨rfl, rfl, rfl, fun _ => .inl (.inl draining)⟩
  | drains => exact ⟨rfl, rfl, rfl, id⟩

theorem quiet_finish (r : Receiver τ) (number : Nat) (panic : Option String) :
    Quiet r (r.finish number panic) := by
  let left : Receiver τ := { r with
    tasks := r.tasks.filter (·.number ≠ number), finished := r.finished ++ [(number, panic)] }
  have closed : Quiet r left := ⟨rfl, rfl, rfl, id⟩
  exact closed.trans ((quiet_release left).trans (quiet_wakeLoopIf _ _))

theorem quiet_settlerTurn {poll : Duration} (p : ReceiverPlan τ)
    (source : r.source = .mailbox poll) (number : Nat) :
    Quiet r (r.settlerTurn p number).receiver := by
  have same (x : Exchange) (kept : x.transport.unavailable = r.exchange.transport.unavailable) :
      Quiet r { r with exchange := x } := ⟨rfl, rfl, kept, id⟩
  have completed (t : Task) (seen : List Happening) : Quiet r (r.complete p t seen).receiver := by
    unfold complete
    dsimp only
    split
    · rename_i script scripted
      cases source.symm.trans scripted
    · let x := r.exchange.setMailbox p.pipeline.address
        (r.exchange.mailbox p.pipeline.address).complete
      exact (same x rfl).trans (quiet_finish { r with exchange := x } t.number none)
  have abandoned (t : Task) (seen : List Happening) : Quiet r (r.abandon p t seen).receiver := by
    unfold abandon
    dsimp only
    split
    · rename_i script scripted
      cases source.symm.trans scripted
    · let x := r.exchange.push p.pipeline.address t.message
      exact (same x (r.exchange.unavailable_push _ _)).trans
        (quiet_finish { r with exchange := x } t.number none)
  have step := step_settlerTurn p r number
  generalize r.settlerTurn p number = turn at step ⊢
  cases step with
  | idle => exact .refl r
  | starts => exact ⟨rfl, rfl, rfl, id⟩
  | @settles t result =>
    cases result with
    | panicked text => exact abandoned _ _
    | done processed =>
      cases processed with
      | settled deliveries => exact completed _ _
      | failed failure => exact abandoned _ _

end Receiver

section tasks

def Task.isOpen (t : Task) : Bool :=
  match t.phase with
  | .processed (.done (.settled _)) => false
  | _ => true

def openMessages (tasks : List Task) : List Incoming :=
  (tasks.filter Task.isOpen).map (·.message)

theorem perm_openMessages {tasks tasks' : List Task} (same : tasks.Perm tasks') :
    (openMessages tasks).Perm (openMessages tasks') :=
  (same.filter Task.isOpen).map _

theorem openMessages_cons_open {t : Task} (opened : t.isOpen = true) (tasks : List Task) :
    openMessages (t :: tasks) = t.message :: openMessages tasks := by
  rw [openMessages, List.filter_cons_of_pos opened]
  rfl

theorem openMessages_cons_closed {t : Task} (closed : t.isOpen = false) (tasks : List Task) :
    openMessages (t :: tasks) = openMessages tasks := by
  rw [openMessages, List.filter_cons_of_neg (by simp [closed])]
  rfl

variable {τ : Type} {r : Receiver τ} {number : Nat} {t : Task}

theorem perm_tasks (apart : (r.tasks.map (·.number)).Nodup) (found : r.task? number = some t) :
    r.tasks.Perm (t :: r.tasks.filter (·.number ≠ number)) := by
  obtain ⟨member, rfl⟩ := Receiver.task?_mem found
  exact perm_cons_others apart member

theorem perm_setPhase (apart : (r.tasks.map (·.number)).Nodup) (found : r.task? number = some t)
    (phase : TaskPhase) :
    (r.setPhase number phase).tasks.Perm
      ({ t with phase } :: r.tasks.filter (·.number ≠ number)) := by
  obtain ⟨member, rfl⟩ := Receiver.task?_mem found
  exact perm_map_at apart member fun t => { t with phase }

end tasks

namespace Receiver
variable {τ : Type} {p : ReceiverPlan τ} {poll : Duration} {r r' r'' : Receiver τ}

/-- The messages that the endpoint at an address still has to deal with. -/
def unsettled (r : Receiver τ) (address : String) : List Incoming :=
  r.exchange.transport.coming address ++ openMessages r.tasks

/-- A receiver at its mailbox whose parcels and tasks are in order, each task not yet at work, or
at work from the start, or done. -/
structure Steady (p : ReceiverPlan τ) (poll : Duration) (r : Receiver τ) : Prop where
  source : r.source = .mailbox poll
  sorted : r.exchange.transport.Sorted p.pipeline.address
  apart : (r.tasks.map (·.number)).Nodup
  fresh : ∀ t ∈ r.tasks, t.number < r.nextTask
  working : ∀ t ∈ r.tasks, ∀ rest time, t.phase = .processing rest time →
    rest = p.pipeline.process t.message

structure Hands (p : ReceiverPlan τ) (poll : Duration) (r r' : Receiver τ) : Prop where
  steady : r'.Steady p poll
  quiet : Quiet r r'
  unsettled : (r'.unsettled p.pipeline.address).Perm (r.unsettled p.pipeline.address)
  elsewhere : ∀ other, other ≠ p.pipeline.address →
    r'.exchange.transport.messagesAt other = r.exchange.transport.messagesAt other

theorem Steady.kept (steady : r.Steady p poll) (kept : Kept r r') : r'.Steady p poll where
  source := kept.source.trans steady.source
  sorted := steady.sorted.of_same kept.goods.labels kept.goods.next
  apart := by
    rw [kept.tasks]
    exact steady.apart
  fresh := by
    rw [kept.tasks, kept.nextTask]
    exact steady.fresh
  working := by
    rw [kept.tasks]
    exact steady.working

theorem Steady.hands_kept (steady : r.Steady p poll) (kept : Kept r r') (quiet : Quiet r r') :
    Hands p poll r r' where
  steady := steady.kept kept
  quiet := quiet
  unsettled := by
    rw [Receiver.unsettled, Receiver.unsettled, kept.goods.coming, kept.tasks]
  elsewhere other _ := kept.goods.messages other

theorem Steady.hands_loopTurn (steady : r.Steady p poll) :
    Hands p poll r (r.loopTurn p).receiver := by
  have quiet := quiet_loopTurn p steady.source
  cases effect_loopTurn (p := p) steady.source with
  | kept kept => exact steady.hands_kept kept quiet
  | @took m popped tasks nextTask source =>
    refine ⟨⟨source.trans steady.source, steady.sorted.of_same popped.labels popped.next, ?_, ?_,
      ?_⟩, quiet, ?_, popped.elsewhere⟩
    · rw [tasks, List.map_append]
      refine nodup_next steady.apart fun number old => ?_
      obtain ⟨t, known, rfl⟩ := List.mem_map.1 old
      exact steady.fresh t known
    · intro t member
      rw [tasks] at member
      rw [nextTask]
      rcases List.mem_append.1 member with known | new
      · exact Nat.lt_succ_of_lt (steady.fresh t known)
      · rw [List.mem_singleton.1 new]
        exact Nat.lt_succ_self _
    · intro t member rest time phase
      rw [tasks] at member
      rcases List.mem_append.1 member with known | new
      · exact steady.working t known rest time phase
      · rw [List.mem_singleton.1 new] at phase
        cases phase
    · have opened : openMessages (r.loopTurn p).receiver.tasks = openMessages r.tasks ++ [m] := by
        rw [tasks, openMessages, List.filter_append, List.map_append]
        rfl
      rw [Receiver.unsettled, Receiver.unsettled, opened, popped.coming, ← List.append_assoc]
      exact List.perm_append_singleton _ _

theorem Steady.setPhase (steady : r.Steady p poll) {number : Nat} {phase : TaskPhase}
    (works : ∀ t, r.task? number = some t → ∀ rest time, phase = .processing rest time →
      rest = p.pipeline.process t.message) {t : Task} (found : r.task? number = some t) :
    (r.setPhase number phase).Steady p poll where
  source := steady.source
  sorted := steady.sorted
  apart := by
    rw [map_setPhase r number phase (·.number) fun _ _ => rfl]
    exact steady.apart
  fresh := by
    intro other member
    rcases mem_setPhase member with ⟨same, old, known, mine, rfl⟩ | ⟨-, known⟩
    · exact steady.fresh old known
    · exact steady.fresh other known
  working := by
    intro other member rest time working
    rcases mem_setPhase member with ⟨same, old, known, mine, rfl⟩ | ⟨-, known⟩
    · have here := task?_mem found
      rw [eq_of_number steady.apart known here.1 (mine.trans here.2.symm)]
      exact works t found rest time working
    · exact steady.working other known rest time working

theorem Steady.closed (steady : r.Steady p poll) {number : Nat} (closed : Closed r r' number)
    (sorted : r'.exchange.transport.Sorted p.pipeline.address) : r'.Steady p poll where
  source := closed.source.trans steady.source
  sorted := sorted
  apart := by
    rw [closed.tasks]
    exact steady.apart.sublist (List.filter_sublist.map _)
  fresh := by
    rw [closed.tasks, closed.nextTask]
    exact fun t member => steady.fresh t (List.mem_of_mem_filter member)
  working := by
    rw [closed.tasks]
    exact fun t member => steady.working t (List.mem_of_mem_filter member)

def others (r : Receiver τ) (address : String) (number : Nat) : List Incoming :=
  r.exchange.transport.coming address ++ openMessages (r.tasks.filter (·.number ≠ number))

theorem Steady.perm_unsettled (steady : r.Steady p poll) {number : Nat} {t : Task}
    (found : r.task? number = some t) (opened : t.isOpen = true) (address : String) :
    (r.unsettled address).Perm (t.message :: r.others address number) := by
  have split := perm_openMessages (perm_tasks steady.apart found)
  rw [openMessages_cons_open opened] at split
  exact (split.append_left _).trans List.perm_middle

theorem Steady.perm_unsettled_closed (steady : r.Steady p poll) {number : Nat} {t : Task}
    (found : r.task? number = some t) (closed : t.isOpen = false) (address : String) :
    (r.unsettled address).Perm (r.others address number) := by
  have split := perm_openMessages (perm_tasks steady.apart found)
  rw [openMessages_cons_closed closed] at split
  exact split.append_left _

theorem Steady.hands_settlerTurn (steady : r.Steady p poll) (number : Nat) :
    Hands p poll r (r.settlerTurn p number).receiver := by
  have quiet := quiet_settlerTurn p steady.source number
  cases effect_settlerTurn (p := p) steady.source number with
  | kept _ kept => exact steady.hands_kept kept quiet
  | @started t time found fresh kept =>
    let phase := TaskPhase.processing (p.pipeline.process t.message) time
    have started : (r.setPhase number phase).Steady p poll := by
      refine steady.setPhase (fun other found' rest time' working => ?_) found
      cases found.symm.trans found'
      exact (TaskPhase.processing.inj working).1.symm
    refine ⟨started.kept kept, quiet, ?_, fun other _ => kept.goods.messages other⟩
    have before := steady.perm_unsettled found (by simp [Task.isOpen, fresh]) p.pipeline.address
    have after := perm_openMessages (perm_setPhase steady.apart found phase)
    rw [openMessages_cons_open rfl] at after
    rw [Receiver.unsettled, kept.goods.coming, kept.tasks]
    exact (after.append_left _).trans (List.perm_middle.trans before.symm)
  | @completed t deliveries found settled goods closed =>
    refine ⟨steady.closed closed (steady.sorted.of_same goods.labels goods.next), quiet, ?_,
      fun other _ => goods.messages other⟩
    rw [Receiver.unsettled, goods.coming, closed.tasks]
    exact (steady.perm_unsettled_closed found (by simp [Task.isOpen, settled]) _).symm
  | @abandoned t result found failed unsettled pushed closed =>
    refine ⟨steady.closed closed (steady.sorted.of_same pushed.labels pushed.next), quiet, ?_,
      pushed.elsewhere⟩
    have opened : t.isOpen = true := by
      unfold Task.isOpen
      split
      · rename_i deliveries phase
        cases failed.symm.trans phase
        exact absurd rfl (unsettled deliveries)
      · rfl
    rw [Receiver.unsettled, closed.tasks]
    exact (pushed.coming.append_right _).trans (steady.perm_unsettled found opened _).symm

theorem Steady.hands_courierTurn (steady : r.Steady p poll) (number : Nat) :
    Hands p poll r { r with exchange := r.exchange.courierTurn number } := by
  obtain ⟨sorted, coming, elsewhere⟩ := Exchange.coming_courierTurn steady.sorted number
  refine ⟨⟨steady.source, sorted, steady.apart, steady.fresh, steady.working⟩,
    ⟨rfl, rfl, r.exchange.unavailable_courierTurn number, id⟩, coming.append_right _, elsewhere⟩

theorem Steady.stopped (steady : r.Steady p poll) {number : Nat} {t : Task}
    (found : r.task? number = some t) {w : World (Exchange × τ)}
    (sorted : w.outside.1.transport.Sorted p.pipeline.address) (ended : Ended Processed) :
    (r.stopped number (.ended ended) w).Steady p poll := by
  let left : Receiver τ := { r with
    table := w.table, exchange := w.outside.1, host := w.outside.2 }
  have before : left.Steady p poll :=
    ⟨steady.source, sorted, steady.apart, steady.fresh, steady.working⟩
  have after : (left.setPhase number (.processed ended)).Steady p poll :=
    before.setPhase (fun _ _ _ _ working => by cases working) found
  exact ⟨after.source, after.sorted, after.apart, after.fresh, after.working⟩

/-- Only what could not be settled is left to the task. -/
theorem Steady.perm_unsettled_stopped (steady : r.Steady p poll) {number : Nat} {t : Task}
    (found : r.task? number = some t) (w : World (Exchange × τ)) (ended : Ended Processed)
    (address : String) :
    ((r.stopped number (.ended ended) w).unsettled address).Perm
      (w.outside.1.transport.coming address ++
        openMessages ({ t with phase := .processed ended } ::
          r.tasks.filter (·.number ≠ number))) :=
  (perm_openMessages (perm_setPhase steady.apart found (.processed ended))).append_left _

end Receiver
end Redelivery
