import Redelivery.Proofs.Receiver.UnsettledMessages
import Redelivery.Proofs.Receiver.InstantProcessing
import Redelivery.Proofs.Demo.Processing

/-! The batch of the demo endpoint, kept account of. Each of its items is still to be dealt with, or
its order was reserved, or it is in the error queue; every turn keeps the account, and the endpoint
stops only when all items are counted as reserved or in the error queue. -/
namespace Redelivery.Demo

/-- What all copies of a message have in common: its id and its body. -/
abbrev Item := String × Bytes

def item (m : Incoming) : Item := (m.id, m.body)

def batchItems (ids : Nat → String) : List Item := (batch ids).map fun m => (m.id, m.body)

theorem batchItems_eq (ids : Nat → String) : batchItems ids =
    orders.map (fun order => (ids order.number, order.body)) ++ [(ids orders.length, malformed)] :=
  rfl

theorem failures_le_of_item {ids : Nat → String} {i : Item} (member : i ∈ batchItems ids) :
    ∀ failures ∈ Order.failuresIn i.2, failures ≤ Whole.max32 := by
  intro failures read
  rw [batchItems_eq] at member
  rcases List.mem_append.1 member with ordered | last
  · obtain ⟨order, known, rfl⟩ := List.mem_map.1 ordered
    cases (failuresIn_order order known).symm.trans read
    exact failures_le order known
  · cases List.mem_singleton.1 last
    cases failuresIn_malformed.symm.trans read

/-- An item that is no order, or one that fails as often as it may be attempted. -/
def isLost (s : Settings) (i : Item) : Bool := (Order.failuresIn i.2).all (s.attemptLimit ≤ ·)

structure Lost (s : Settings) (m : Incoming) : Prop where
  isLost : isLost s (item m) = true
  stamped : Order.failuresIn m.body = none → m.headers.get? Headers.exceptionType =
    some "recoverability::MessageDeserializationError"

structure Waiting (s : Settings) (t : FailureTable) (room : StockRoom) (m : Incoming) : Prop where
  original : m.originalBody = m.body
  prospect : Prospect s t room m (Order.failuresIn m.body)

section waiting
variable {s : Settings} {t t' : FailureTable} {room room' : StockRoom} {m : Incoming}

/-- What is done with other messages takes at most the record of a message away. -/
theorem Prospect.frame {plan : Option Nat} (prospect : Prospect s t room m plan)
    (record : t'.lookup m.id = t.lookup m.id ∨ t'.lookup m.id = none)
    (tried : room'.tried m.id = room.tried m.id) : Prospect s t' room' m plan := by
  have still (unrecorded : t.lookup m.id = none) : t'.lookup m.id = none :=
    record.elim (·.trans unrecorded) id
  cases prospect with
  | unreadable unrecorded => exact .unreadable (still unrecorded)
  | ready unrecorded rounds attempts early =>
    exact .ready (still unrecorded) rounds (tried.trans attempts) (tried ▸ early)
  | worn later full lost known =>
    refine .worn later (tried.trans full) lost ?_
    rcases record with same | gone
    · have again : t'.pendingForward m.id = t.pendingForward m.id := by
        rw [FailureTable.pendingForward, same, FailureTable.pendingForward]
      rwa [same, again]
    · exact .inl gone

theorem Waiting.frame (waiting : Waiting s t room m)
    (record : t'.lookup m.id = t.lookup m.id ∨ t'.lookup m.id = none)
    (tried : room'.tried m.id = room.tried m.id) : Waiting s t' room' m :=
  ⟨waiting.original, waiting.prospect.frame record tried⟩

end waiting

structure Runs (s : Settings) (clock : Clock) (p : ReceiverPlan Office) : Prop where
  built : ReceivePipeline.build s none (handlerStages handlers) = .ok p.pipeline
  host : p.host = host clock

/-- The account: the items of the batch, each where it is by now. -/
structure Inventory (s : Settings) (ids : Nat → String) (p : ReceiverPlan Office) (poll : Duration)
    (r : Receiver Office) (reserved : List Item) : Prop where
  steady : r.Steady p poll
  free : r.exchange.transport.unavailable = []
  complete : ((r.unsettled s.address).map item ++ (reserved ++
    (r.exchange.transport.messagesAt s.errorQueue).map item)).Perm (batchItems ids)
  waiting : ∀ m ∈ r.unsettled s.address, Waiting s r.table r.host.room m
  kept : ∀ i ∈ reserved, isLost s i = false
  lost : ∀ m ∈ r.exchange.transport.messagesAt s.errorQueue, Lost s m
  reserved : r.host.room.reserved = reserved.length
  faulted : r.host.faulted = (r.exchange.transport.messagesAt s.errorQueue).length
  stopping : r.IsStopping → (batchItems ids).length ≤ r.host.settled

section turns
variable {s : Settings} {ids : Nat → String} {clock : Clock} {p : ReceiverPlan Office}
  {poll : Duration} {r r' : Receiver Office} {reserved : List Item}

theorem Inventory.hands (inventory : Inventory s ids p poll r reserved)
    (here : p.pipeline.address = s.address) (apart : s.errorQueue ≠ s.address)
    (hands : Receiver.Hands p poll r r') : Inventory s ids p poll r' reserved := by
  have unsettled := hands.unsettled
  rw [here] at unsettled
  have errorQueue := hands.elsewhere s.errorQueue (here ▸ apart)
  exact {
    steady := hands.steady
    free := hands.quiet.unavailable.trans inventory.free
    complete := by
      rw [errorQueue]
      exact ((unsettled.map item).append_right _).trans inventory.complete
    waiting := by
      rw [hands.quiet.table, hands.quiet.host]
      exact fun m member => inventory.waiting m (unsettled.mem_iff.1 member)
    kept := inventory.kept
    lost := errorQueue ▸ inventory.lost
    reserved := hands.quiet.host ▸ inventory.reserved
    faulted := by
      rw [hands.quiet.host, errorQueue]
      exact inventory.faulted
    stopping := fun stops => hands.quiet.host ▸ inventory.stopping (hands.quiet.stopping stops) }

theorem Inventory.apart (inventory : Inventory s ids p poll r reserved)
    (distinct : ((batchItems ids).map (·.1)).Nodup) :
    ((r.unsettled s.address).map (·.id)).Nodup := by
  have all := (inventory.complete.map (·.1)).nodup_iff.2 distinct
  rw [List.map_append, List.map_map] at all
  exact (List.nodup_append.1 all).1

/-- One message is dealt with: it makes place for what came of it, and the others are left alone. -/
structure Replaces (s : Settings) (p : ReceiverPlan Office) (poll : Duration)
    (r r' : Receiver Office) (m : Incoming) (others : List Incoming) (left : List Incoming)
    (done : List Item) (gone : List Incoming) : Prop where
  steady : r'.Steady p poll
  free : r'.exchange.transport.unavailable = []
  unsettled : (r'.unsettled s.address).Perm (left ++ others)
  errorQueue : r'.exchange.transport.messagesAt s.errorQueue =
    r.exchange.transport.messagesAt s.errorQueue ++ gone
  same : left.map item ++ (done ++ gone.map item) = [item m]
  waiting : ∀ m ∈ left, Waiting s r'.table r'.host.room m
  record : ∀ other, other ≠ m.id →
    r'.table.lookup other = r.table.lookup other ∨ r'.table.lookup other = none
  tried : ∀ other, other ≠ m.id → r'.host.room.tried other = r.host.room.tried other
  kept : ∀ i ∈ done, isLost s i = false
  lost : ∀ m ∈ gone, Lost s m
  reserved : r'.host.room.reserved = r.host.room.reserved + done.length
  faulted : r'.host.faulted = r.host.faulted + gone.length
  stopping : r'.IsStopping → r.IsStopping

theorem Inventory.replaces {m : Incoming} {others left gone : List Incoming} {done : List Item}
    (inventory : Inventory s ids p poll r reserved)
    (distinct : ((batchItems ids).map (·.1)).Nodup)
    (split : (r.unsettled s.address).Perm (m :: others))
    (replaces : Replaces s p poll r r' m others left done gone) :
    Inventory s ids p poll r' (reserved ++ done) where
  steady := replaces.steady
  free := replaces.free
  complete := by
    refine .trans ?_ (((split.symm.map item).append_right _).trans inventory.complete)
    refine List.perm_iff_count.2 fun i => ?_
    have moved := (replaces.unsettled.map item).count_eq i
    have same := congrArg (List.count i) replaces.same
    rw [replaces.errorQueue]
    simp only [List.map_append, List.map_cons, List.count_append, List.count_cons,
      List.count_nil] at moved same ⊢
    omega
  waiting := by
    intro other member
    have distinct' := ((split.map (·.id)).nodup_iff.1 (inventory.apart distinct))
    rw [List.map_cons, List.nodup_cons] at distinct'
    rcases List.mem_append.1 (replaces.unsettled.mem_iff.1 member) with mine | known
    · exact replaces.waiting other mine
    · have different : other.id ≠ m.id := fun same =>
        distinct'.1 (List.mem_map.2 ⟨other, known, same⟩)
      exact (inventory.waiting other (split.mem_iff.2 (List.mem_cons_of_mem m known))).frame
        (replaces.record other.id different) (replaces.tried other.id different)
  kept := by
    intro i member
    exact (List.mem_append.1 member).elim (inventory.kept i) (replaces.kept i)
  lost := by
    intro other member
    rw [replaces.errorQueue] at member
    exact (List.mem_append.1 member).elim (inventory.lost other) (replaces.lost other)
  reserved := by rw [replaces.reserved, inventory.reserved, List.length_append]
  faulted := by rw [replaces.faulted, inventory.faulted, replaces.errorQueue, List.length_append]
  stopping := by
    intro stops
    have enough := inventory.stopping (replaces.stopping stops)
    rw [Office.settled] at enough ⊢
    rw [replaces.reserved, replaces.faulted]
    omega

theorem address_of_runs (runs : Runs s clock p) : p.pipeline.address = s.address :=
  ReceivePipeline.address_of_build runs.built

theorem prompt_of_runs (runs : Runs s clock p) (m : Incoming) :
    (p.pipeline.process m).prompt (outside clock) := by
  refine ReceivePipeline.prompt_process runs.built (fun handler member m st => ?_) m
  obtain rfl := List.mem_singleton.1 member
  change (st.2.room.handle m).1.pause.isZero = true
  unfold StockRoom.handle
  split
  · rfl
  · dsimp only
    split
    · rfl
    · split <;> rfl

section ways
variable {number tries : Nat} {t : Task} {w : World (Exchange × Office)} {ended : Ended Processed}

structure Leaves (s : Settings) (r : Receiver Office) (t : Task) (w : World (Exchange × Office))
    (ended : Ended Processed) (left : List Incoming) (done : List Item) (gone : List Incoming) :
    Prop where
  sorted : w.outside.1.transport.Sorted s.address
  free : w.outside.1.transport.unavailable = []
  coming : (w.outside.1.transport.coming s.address ++
    openMessages [{ t with phase := .processed ended }]).Perm
      (left ++ r.exchange.transport.coming s.address)
  errorQueue : w.outside.1.transport.messagesAt s.errorQueue =
    r.exchange.transport.messagesAt s.errorQueue ++ gone
  same : left.map item ++ (done ++ gone.map item) = [item t.message]
  waiting : ∀ m ∈ left, Waiting s w.table w.outside.2.room m
  kept : ∀ i ∈ done, isLost s i = false
  lost : ∀ m ∈ gone, Lost s m
  office : ∃ tries, Office.Advanced t.message.id tries done.length gone.length r.host w.outside.2

theorem Leaves.replaces {left gone : List Incoming} {done : List Item}
    (leaves : Leaves s r t w ended left done gone) (here : p.pipeline.address = s.address)
    (steady : r.Steady p poll) (found : r.task? number = some t)
    (record : ∀ other, other ≠ t.message.id →
      w.table.lookup other = r.table.lookup other ∨ w.table.lookup other = none) :
    Replaces s p poll r (r.stopped number (.ended ended) w) t.message
      (r.others s.address number) left done gone := by
  obtain ⟨tries, office⟩ := leaves.office
  exact {
    steady := steady.stopped found (here ▸ leaves.sorted) ended
    free := leaves.free
    unsettled := by
      refine (steady.perm_unsettled_stopped found w ended s.address).trans ?_
      have apart : openMessages ({ t with phase := .processed ended } ::
          r.tasks.filter (·.number ≠ number)) =
            openMessages [{ t with phase := .processed ended }] ++
              openMessages (r.tasks.filter (·.number ≠ number)) := by
        rw [← List.singleton_append, openMessages, List.filter_append, List.map_append]
        rfl
      rw [apart, ← List.append_assoc, Receiver.others, ← List.append_assoc]
      exact leaves.coming.append_right _
    errorQueue := leaves.errorQueue
    same := leaves.same
    waiting := leaves.waiting
    record := record
    tried := office.others
    kept := leaves.kept
    lost := leaves.lost
    reserved := office.reserved
    faulted := office.faulted
    stopping := id }

theorem leaves_of_way (sorted : r.exchange.transport.Sorted s.address)
    (free : r.exchange.transport.unavailable = []) (apart : s.errorQueue ≠ s.address)
    (original : t.message.originalBody = t.message.body)
    (way : Way s t.message (Order.failuresIn t.message.body) ⟨r.table, r.exchange, r.host⟩ w
      ended) : ∃ left done gone, Leaves s r t w ended left done gone := by
  have available (address : String) : r.exchange.transport.isAvailable address = true := by
    simp [Transport.isAvailable, free]
  have nothing {α : Type} {P : α → Prop} : ∀ a ∈ [], P a := List.forall_mem_nil P
  obtain ⟨table, x, office'⟩ := w
  cases way with
  | @reserved failures tries deliveries planned few exchange office =>
    cases exchange
    exact ⟨[], [item t.message], [], {
      sorted := sorted
      free := free
      coming := .of_eq (List.append_nil _)
      errorQueue := (List.append_nil _).symm
      same := rfl
      waiting := nothing
      kept := by
        intro i member
        obtain rfl := List.mem_singleton.1 member
        simp [isLost, item, planned, few]
      lost := nothing
      office := ⟨tries, office⟩ }⟩
  | @returned text tries exchange office prospect =>
    cases exchange
    exact ⟨[t.message], [], [], {
      sorted := sorted
      free := free
      coming := List.perm_append_comm
      errorQueue := (List.append_nil _).symm
      same := rfl
      waiting := List.forall_mem_singleton.2 ⟨original, prospect⟩
      kept := nothing
      lost := nothing
      office := ⟨tries, office⟩ }⟩
  | @deferred op tries deliveries retry exchange office prospect =>
    cases exchange
    obtain ⟨sorted', coming, elsewhere⟩ :=
      Exchange.coming_dispatch sorted (available op.destination) retry.destination
    have body : op.message.toIncoming.body = t.message.body := retry.body.trans original
    have copy : item op.message.toIncoming = item t.message := Prod.ext retry.id body
    exact ⟨[op.message.toIncoming], [], [], {
      sorted := sorted'
      free := (r.exchange.unavailable_dispatch op).trans free
      coming := (List.append_nil _).symm ▸ coming
      errorQueue := (elsewhere _ apart).trans (List.append_nil _).symm
      same := congrArg (· :: []) copy
      waiting := by
        rw [List.forall_mem_singleton]
        exact ⟨rfl, by rw [body]; exact prospect⟩
      kept := nothing
      lost := nothing
      office := ⟨tries, office⟩ }⟩
  | @faulted op tries deliveries lost fault exchange office =>
    cases exchange
    have away : s.address ≠ op.destination := fault.forward.destination ▸ apart.symm
    obtain ⟨sorted', coming, arrived⟩ := Exchange.coming_dispatch_away sorted
      (available op.destination) away fault.forward.delays
    have body : op.message.body = t.message.body := fault.forward.body.trans original
    have copy : item op.message.toIncoming = item t.message := Prod.ext fault.forward.id body
    exact ⟨[], [], [op.message.toIncoming], {
      sorted := sorted'
      free := (r.exchange.unavailable_dispatch op).trans free
      coming := .of_eq ((List.append_nil _).trans coming)
      errorQueue := fault.forward.destination ▸ arrived
      same := congrArg (· :: []) copy
      waiting := nothing
      kept := nothing
      lost := by
        refine List.forall_mem_singleton.2 ⟨?_, fun broken => fault.stamped (body ▸ broken)⟩
        rw [copy, isLost, Option.all_eq_true]
        exact fun failures read => decide_eq_true (lost failures read)
      office := ⟨tries, office⟩ }⟩

end ways

theorem Inventory.workerTurn (runs : Runs s clock p) (limited : s.attemptLimit ≤ Whole.max32)
    (apart : s.errorQueue ≠ s.address) (distinct : ((batchItems ids).map (·.1)).Nodup)
    (inventory : Inventory s ids p poll r reserved) (number : Nat) :
    ∃ reserved', Inventory s ids p poll (r.workerTurn p number).receiver reserved' := by
  have here := address_of_runs runs
  have prompt := prompt_of_runs runs
  have surroundings : p.host.onExchange = outside clock := congrArg Host.onExchange runs.host
  rw [← surroundings] at prompt
  rcases Receiver.workerTurn_prompt prompt inventory.steady.working number with
    same | ⟨t, rest, time, found, phase, ended⟩
  · rw [same]
    exact ⟨reserved, inventory⟩
  · have opened : t.isOpen = true := by simp [Task.isOpen, phase]
    have split := inventory.steady.perm_unsettled found opened s.address
    have member : t.message ∈ r.unsettled s.address := split.mem_iff.2 List.mem_cons_self
    have known : item t.message ∈ batchItems ids :=
      inventory.complete.mem_iff.1 (List.mem_append_left _ (List.mem_map_of_mem member))
    rw [surroundings] at ended
    rw [ended]
    have waits := inventory.waiting t.message member
    obtain ⟨left, done, gone, leaves⟩ := leaves_of_way (here ▸ inventory.steady.sorted)
      inventory.free apart waits.original (process_goesWay clock runs.built limited
        inventory.free rfl (failures_le_of_item known) waits.prospect)
    exact ⟨_, inventory.replaces distinct split (leaves.replaces here inventory.steady found
      fun other different =>
        ReceivePipeline.lookup_process_other runs.built t.message _ different)⟩

theorem Inventory.agenda (inventory : Inventory s ids p poll r reserved)
    (agenda : Agenda Activity) :
    Inventory s ids p poll { r with exchange := { r.exchange with agenda } } reserved :=
  { inventory with
    steady := inventory.steady.kept ⟨.refl _, rfl, rfl, rfl⟩
    stopping := inventory.stopping }

theorem Inventory.signalled (inventory : Inventory s ids p poll r reserved)
    (enough : (batchItems ids).length ≤ r.host.settled) (change : Signal → Signal) :
    Inventory s ids p poll (r.signalled change) reserved ∧
      (r.signalled change).host = r.host := by
  unfold Receiver.signalled Receiver.wakeLoopIf
  split <;>
    exact ⟨{ inventory with
      steady := inventory.steady.kept ⟨.refl _, rfl, rfl, rfl⟩
      stopping := fun _ => enough }, rfl⟩

theorem Inventory.watch (inventory : Inventory s ids p poll r reserved) :
    Inventory s ids p poll (Demo.watch (batchItems ids).length none r).receiver reserved := by
  unfold Demo.watch
  by_cases enough : (batchItems ids).length ≤ r.host.settled
  · simp only [Option.any_none, Bool.false_eq_true, if_false, enough, if_true]
    obtain ⟨told, host⟩ := inventory.signalled enough (·.send true)
    exact (told.signalled (host ▸ enough) Signal.drop).1
  · simp only [Option.any_none, Bool.false_eq_true, if_false, enough]
    exact inventory.agenda _

section scene
variable (runs : Runs s clock p) (limited : s.attemptLimit ≤ Whole.max32)
  (apart : s.errorQueue ≠ s.address) (distinct : ((batchItems ids).map (·.1)).Nodup)
include runs limited apart distinct

theorem inventory_act (scene : Scene Unit Office)
    (inventory : Inventory s ids p poll scene.receiver reserved) (a : Activity) :
    ∃ reserved', Inventory s ids p poll
      (scene.act p (watcher (batchItems ids).length none) a).2.receiver reserved' := by
  have here := address_of_runs runs
  cases a with
  | host => exact ⟨reserved, inventory.watch⟩
  | receiver => exact ⟨reserved, inventory.hands here apart inventory.steady.hands_loopTurn⟩
  | settler number =>
    exact ⟨reserved, inventory.hands here apart (inventory.steady.hands_settlerTurn number)⟩
  | worker number => exact inventory.workerTurn runs limited apart distinct number
  | courier number =>
    exact ⟨reserved, inventory.hands here apart (inventory.steady.hands_courierTurn number)⟩

theorem inventory_next {scene scene' : Scene Unit Office} {seen : List Happening}
    (inventory : Inventory s ids p poll scene.receiver reserved)
    (next : scene.next? p (watcher (batchItems ids).length none) = some (scene', seen)) :
    ∃ reserved', Inventory s ids p poll scene'.receiver reserved' := by
  obtain ⟨a, agenda, rfl⟩ := Chronicle.exists_act next
  let before : Scene Unit Office := { scene with receiver :=
    { scene.receiver with exchange := { scene.receiver.exchange with agenda } } }
  obtain ⟨reserved', later⟩ :=
    inventory_act runs limited apart distinct before (inventory.agenda agenda) a
  refine ⟨reserved', ?_⟩
  unfold Scene.afterTurn
  dsimp only
  split
  · exact later.agenda _
  · exact later

theorem inventory_runOn (turns : Nat) {scene : Scene Unit Office}
    (inventory : Inventory s ids p poll scene.receiver reserved) (seen : List (Nat × Happening)) :
    ∃ reserved', Inventory s ids p poll
      (scene.runOn p (watcher (batchItems ids).length none) turns seen).1.receiver reserved' := by
  induction turns generalizing scene reserved seen with
  | zero => exact ⟨reserved, inventory⟩
  | succ turns ih =>
    unfold Scene.runOn
    cases next : scene.next? p (watcher (batchItems ids).length none) with
    | none => exact ⟨reserved, inventory⟩
    | some turn =>
      obtain ⟨reserved', later⟩ := inventory_next runs limited apart distinct inventory next
      exact ih later _

theorem inventory_run (scene : Scene Unit Office)
    (inventory : Inventory s ids p poll scene.receiver reserved) :
    ∃ reserved', Inventory s ids p poll
      (scene.run p (watcher (batchItems ids).length none)).1.receiver reserved' := by
  let woken : Scene Unit Office :=
    { scene with receiver := (scene.receiver.wake .receiver).wake .host }
  have start : Inventory s ids p poll woken.receiver reserved := (inventory.agenda _).agenda _
  exact inventory_runOn runs limited apart distinct Scene.turnLimit start _

end scene

theorem inventory_launch (apart : s.errorQueue ≠ s.address) :
    Inventory s ids p (.ofMillis 100) (launch s ids p) [] := by
  obtain ⟨arrived, elsewhere, labels, next, unavailable⟩ :=
    Exchange.coming_sends { listener := .receiver } s.address (batch ids)
  have launched : (launch s ids p).exchange =
      (batch ids).foldl (fun x m => x.send s.address m) { listener := .receiver } := by
    dsimp only [launch, Receiver.create]
  rw [← launched] at arrived elsewhere labels next unavailable
  have errorQueue := elsewhere s.errorQueue apart
  have idle : (launch s ids p).tasks = [] := rfl
  have unsettled : (launch s ids p).unsettled s.address =
      (batch ids).map Outgoing.toIncoming := by
    rw [Receiver.unsettled, Transport.coming, arrived, labels, idle]
    exact (List.append_nil _).trans (List.append_nil _)
  exact {
    steady := {
      source := rfl
      sorted := (Transport.sorted_empty _).of_same labels next
      apart := List.nodup_nil
      fresh := fun t member => by cases member
      working := fun t member => by cases member }
    free := unavailable
    complete := by
      have items : ((batch ids).map Outgoing.toIncoming).map item = batchItems ids :=
        List.map_map
      rw [unsettled, errorQueue, items]
      exact .of_eq (List.append_nil (batchItems ids))
    waiting := by
      rw [unsettled]
      intro m member
      obtain ⟨sent, known, rfl⟩ := List.mem_map.1 member
      obtain ⟨⟨body, n⟩, -, rfl⟩ := List.mem_map.1 known
      refine ⟨rfl, ?_⟩
      cases read : Order.failuresIn (Outgoing.toIncoming ⟨ids n, .empty, body⟩).body with
      | none => exact .unreadable rfl
      | some failures =>
        exact .ready rfl (Nat.zero_le _) (Nat.zero_mul _).symm (Nat.zero_le _)
    kept := fun i member => by cases member
    lost := fun m member => by
      rw [errorQueue] at member
      cases member
    reserved := rfl
    faulted := by
      rw [errorQueue]
      rfl
    stopping := by
      rintro ((draining | stopped) | told | gone)
      · cases draining
      · cases stopped
      · cases told
      · cases gone }

/-- When the endpoint stops, each item is reserved or in the error queue, as its order says. -/
theorem Inventory.settled (inventory : Inventory s ids p poll r reserved) (stops : r.IsStopping) :
    let queue := r.exchange.transport.messagesAt s.errorQueue
    reserved.Perm ((batchItems ids).filter fun i => !isLost s i) ∧
      (queue.map item).Perm ((batchItems ids).filter (isLost s)) := by
  intro queue
  have enough := inventory.stopping stops
  have total := inventory.complete.length_eq
  rw [Office.settled, inventory.reserved, inventory.faulted] at enough
  simp only [List.length_append, List.length_map] at total
  have cleared : r.unsettled s.address = [] := List.length_eq_zero_iff.1 (by omega)
  have complete := inventory.complete
  rw [cleared, List.map_nil, List.nil_append] at complete
  have none : ∀ i ∈ queue.map item, isLost s i = true := by
    intro i member
    obtain ⟨m, known, rfl⟩ := List.mem_map.1 member
    exact (inventory.lost m known).isLost
  constructor
  · have split := complete.filter fun i => !isLost s i
    rw [List.filter_append, List.filter_eq_self.2 (by simpa using inventory.kept),
      List.filter_eq_nil_iff.2 (by simpa using none), List.append_nil] at split
    exact split
  · have split := complete.filter (isLost s)
    rw [List.filter_append, List.filter_eq_nil_iff.2 (by simpa using inventory.kept),
      List.filter_eq_self.2 none, List.nil_append] at split
    exact split

end turns

section batch
variable (s : Settings) (ids : Nat → String)

theorem isLost_order {order : Order} (known : order ∈ orders) :
    isLost s (ids order.number, order.body) = decide (s.attemptLimit ≤ order.failures) := by
  rw [isLost, failuresIn_order order known]
  rfl

theorem isLost_malformed (id : String) : isLost s (id, malformed) = true := by
  rw [isLost, failuresIn_malformed]
  rfl

theorem lost_items : (batchItems ids).filter (isLost s) =
    ((orders.filter (s.attemptLimit ≤ ·.failures)).map fun order => (ids order.number, order.body))
      ++ [(ids orders.length, malformed)] := by
  rw [batchItems_eq, List.filter_append, List.filter_map, List.filter_singleton,
    isLost_malformed]
  congr 2
  exact List.filter_congr fun order known => isLost_order s ids known

theorem kept_items : ((batchItems ids).filter fun i => !isLost s i).length =
    failurePlan.countP (· < s.attemptLimit) := by
  rw [batchItems_eq, ← List.countP_eq_length_filter, List.countP_append, List.countP_map,
    ← failures_orders, List.countP_map, List.countP_singleton, isLost_malformed,
    if_neg (by decide), Nat.add_zero]
  refine List.countP_congr fun order known => ?_
  simp [isLost_order s ids known]

end batch

/-- A batch that is settled. Each of its messages is reserved or in the error queue; an order is
reserved if it fails less often than it may be attempted, and the error queue holds the others and
the one body that is no order. -/
structure Settles (s : Settings) (ids : Nat → String) (summary : Summary) : Prop where
  sent : summary.sent = 9
  settled : summary.reserved + summary.faulted = 9
  reserved : summary.reserved = failurePlan.countP (· < s.attemptLimit)
  faulted : summary.faulted = summary.errorQueue.length
  errorQueue : (summary.errorQueue.map fun m => (m.id, m.body)).Perm
    (((orders.filter (s.attemptLimit ≤ ·.failures)).map fun order =>
      (ids order.number, order.body)) ++ [(ids orders.length, malformed)])
  unreadable : ∀ m ∈ summary.errorQueue, m.body = malformed →
    m.headers.get? Headers.exceptionType = some "recoverability::MessageDeserializationError"

section run
variable {s : Settings} {ids : Nat → String} {clock : Clock} {summary : Summary}

/-- A run with a summary is one of an endpoint that could be built and came to a stop. -/
theorem stopped_of_run {stopAt : Option Nat} (ran : run s ids clock stopAt = .ok summary) :
    ∃ p, Runs s clock p ∧
      let r := (Scene.run p (watcher (batch ids).length stopAt) ⟨launch s ids p, ()⟩).1.receiver
      r.stage = .stopped ∧ summary.sent = (batch ids).length ∧
        summary.reserved = r.host.room.reserved ∧ summary.faulted = r.host.faulted ∧
        summary.errorQueue = r.exchange.transport.messagesAt s.errorQueue := by
  have own : [Stage.ofHandler 0 StockRoom.handlerName] = handlerStages handlers := rfl
  unfold run at ran
  rw [own] at ran
  cases built : ReceivePipeline.build s none (handlerStages handlers) with
  | error e =>
    rw [built] at ran
    cases ran
  | ok pipeline =>
    rw [built] at ran
    by_cases many : permitLimit < s.concurrency.toNat
    · simp only [Except.mapError, bind, Except.bind, if_pos many] at ran
      cases ran
    · simp only [Except.mapError, bind, Except.bind, pure, Except.pure, if_neg many] at ran
      generalize outcome : Scene.run _ (watcher (batch ids).length stopAt) _ = result at ran
      obtain ⟨scene, seen⟩ := result
      refine ⟨⟨pipeline, host clock, .ofMillis 50, s.concurrency.toNat⟩, ⟨built, rfl⟩, ?_⟩
      intro r
      have same : r = (scene, seen).1.receiver := by
        rw [← outcome]
      rw [same]
      split at ran
      · cases ran
      · rename_i stopped
        cases ran
        exact ⟨Classical.not_not.1 stopped, rfl, rfl, rfl, rfl⟩

/-- Whatever its settings, an endpoint that comes to a stop has settled its batch: if its watcher
alone stops it, if ids tell messages apart, and if no message may be attempted more often than 32
bits can count. -/
theorem batch_settles (distinct : ((batch ids).map (·.id)).Nodup)
    (apart : s.errorQueue ≠ s.address)
    (limited : (s.immediateRetries.toNat + 1) * (s.retryLimit + 1) ≤ Whole.max32)
    (ran : run s ids clock none = .ok summary) : Settles s ids summary := by
  have few : s.attemptLimit ≤ Whole.max32 := limited
  have nine : (batchItems ids).length = 9 := rfl
  have distinct' : ((batchItems ids).map (·.1)).Nodup := by
    rw [batchItems, List.map_map]
    exact distinct
  obtain ⟨p, runs, stopped, sent, reserved, faulted, errorQueue⟩ := stopped_of_run ran
  have number : (batch ids).length = (batchItems ids).length := (List.length_map _).symm
  have start : Inventory s ids p (.ofMillis 100) (launch s ids p) [] := inventory_launch apart
  obtain ⟨done, inventory⟩ :=
    inventory_run runs few apart distinct' ⟨launch s ids p, ()⟩ start
  rw [← number] at inventory
  obtain ⟨kept, lost⟩ := inventory.settled (.inl (.inr stopped))
  have total := List.length_eq_length_filter_add (l := batchItems ids) (isLost s)
  have all := lost.length_eq
  rw [List.length_map] at all
  exact {
    sent := sent.trans (number.trans nine)
    settled := by
      rw [reserved, faulted, inventory.reserved, inventory.faulted, kept.length_eq, all,
        Nat.add_comm, ← total, nine]
    reserved := by rw [reserved, inventory.reserved, kept.length_eq, kept_items]
    faulted := by rw [faulted, inventory.faulted, errorQueue]
    errorQueue := by
      rw [errorQueue, ← lost_items]
      exact lost
    unreadable := by
      intro m member same
      rw [errorQueue] at member
      refine (inventory.lost m member).stamped ?_
      rw [same, failuresIn_malformed] }

/-- The demo's own settings grant nine attempts, enough for all orders of the batch but one. -/
theorem demo_batch_settles : ∃ summary, run settings Whole.text (⟨0, 0⟩ : Instant) none = .ok summary ∧
    Settles settings Whole.text summary ∧ summary.reserved = 7 ∧ summary.faulted = 2 := by
  have counts : (run settings Whole.text (⟨0, 0⟩ : Instant) none).toOption.map
      (fun summary => (summary.reserved, summary.faulted)) = some (7, 2) := by decide +kernel
  cases ran : run settings Whole.text (⟨0, 0⟩ : Instant) none with
  | error refusal =>
    rw [ran] at counts
    cases counts
  | ok summary =>
    rw [ran] at counts
    have both : (summary.reserved, summary.faulted) = (7, 2) := Option.some.inj counts
    exact ⟨summary, rfl, batch_settles (by decide +kernel) (by decide) (by decide) ran,
      congrArg Prod.fst both, congrArg Prod.snd both⟩

end run
end Redelivery.Demo
