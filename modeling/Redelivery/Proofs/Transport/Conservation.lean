import Redelivery.Proofs.Transport.Calls

/-! A journal of what a caller does with the transport, step by step. It tells what was posted and
when, what has arrived and when, what was taken, and at which addresses dispatches are to fail. What
was posted has arrived when its wait was over, or is on its way; and each queue gives its messages
away in the order in which they arrived. -/
namespace Redelivery

namespace TransportStep

def address? : TransportStep → Option String
  | .send address _ => some address
  | .dispatch op => some op.destination
  | .receive address _ => some address
  | .complete address => some address
  | .giveBack address _ => some address
  | .abandon address _ _ => some address
  | .unavailable address _ => some address
  | .advance _ => none
  | .look => none

def takesTime : TransportStep → Bool
  | .receive _ _ => true
  | .advance _ => true
  | _ => false

end TransportStep

namespace TransportSession

/-- What a step posts: a refused dispatch posts nothing. -/
def posts (s : TransportSession) (step : TransportStep) : List Posted :=
  let now := s.exchange.now
  match step, (s.step step).2 with
  | .send address m, _ => [⟨now, address, .fresh m, []⟩]
  | .dispatch op, .dispatched none => [⟨now, op.destination, .fresh op.message, op.delays⟩]
  | .giveBack address m, _ => [⟨now, address, .returned m, []⟩]
  | .abandon address held body, _ => (s.held[held]?).toList.map fun m =>
      ⟨now, address, .returned ((body.map m.updateBody).getD m), []⟩
  | _, _ => []

theorem posts_accepted {s : TransportSession} {op : Operation}
    (accepted : (s.exchange.dispatch op).1.failure = none) :
    s.posts (.dispatch op) =
      [⟨s.exchange.now, op.destination, .fresh op.message, op.delays⟩] := by
  have answer : (s.step (.dispatch op)).2 = .dispatched none :=
    congrArg TransportAnswer.dispatched accepted
  unfold posts
  rw [answer]

theorem posts_refused {s : TransportSession} {op : Operation} {failure : Failure}
    (refused : (s.exchange.dispatch op).1.failure = some failure) :
    s.posts (.dispatch op) = [] := by
  have answer : (s.step (.dispatch op)).2 = .dispatched (some failure) :=
    congrArg TransportAnswer.dispatched refused
  unfold posts
  rw [answer]

def arrivals (s : TransportSession) (step : TransportStep) : List Transport.Arrival :=
  let x := s.exchange
  let x' := (s.step step).1.exchange
  match step with
  | .send address _ => x.arrivedAt x' address
  | .dispatch op => x.arrivedAt x' op.destination
  | .giveBack address _ => x.arrivedAt x' address
  | .abandon address _ _ => x.arrivedAt x' address
  | .receive address poll => arrivalsInReceive x address poll
  | .advance length =>
    let y := x.sleepUntil .host (x.agenda.due length)
    if length.isZero then [] else Exchange.arrivalsWithin (2 * y.transport.parcels.length + 1) y
  | _ => []

def takes (s : TransportSession) (step : TransportStep) : List (String × Incoming) :=
  match step, (s.step step).2 with
  | .receive address _, .received m => m.toList.map (address, ·)
  | _, _ => []

end TransportSession

structure Journal where
  session : TransportSession := {}
  posted : List Posted := []
  arrived : List Transport.Arrival := []
  taken : List (String × Incoming) := []
  /-- Where dispatches are to fail. -/
  barred : String → Bool := fun _ => false

namespace Journal

def step (j : Journal) (step : TransportStep) : Journal where
  session := (j.session.step step).1
  posted := j.posted ++ j.session.posts step
  arrived := j.arrived ++ j.session.arrivals step
  taken := j.taken ++ j.session.takes step
  barred := match step with
    | .unavailable address value => Function.update j.barred address value
    | _ => j.barred

def after (j : Journal) (steps : List TransportStep) : Journal := steps.foldl step j

def exchange (j : Journal) : Exchange := j.session.exchange

variable {j j' : Journal} {of of' : Nat → Posted} {landed landed' : List Posted}

/-- The books agree with the journal, and nobody is waiting. -/
structure Sound (of : Nat → Posted) (landed : List Posted) (j : Journal) : Prop where
  books : Exchange.Books of j.posted landed j.taken j.exchange
  arrived : j.arrived = landed.map Posted.arrival
  idle : j.exchange.Idle
  barred : ∀ a, j.exchange.transport.isAvailable a = !j.barred a

theorem sound_start : Sound (fun _ => ⟨0, "", .fresh default, []⟩) [] {} where
  books := {
    couriers := ⟨List.nodup_nil, nofun, nofun, .refl _⟩
    ordered := ⟨.nil, nofun⟩
    accounted := .refl _
    past := nofun
    inOrder := .nil
    queues := fun _ => rfl }
  arrived := rfl
  idle := ⟨⟨rfl, fun _ _ => rfl, nofun⟩, nofun, rfl⟩
  barred _ := rfl

theorem Sound.still (sound : j.Sound of landed) (step : TransportStep)
    (books : Exchange.Books of j.posted landed j.taken (j.step step).exchange)
    (idle : (j.step step).exchange.Idle)
    (barred : ∀ a, (j.step step).exchange.transport.isAvailable a = !(j.step step).barred a)
    (unposted : j.session.posts step = []) (quiet : j.session.arrivals step = [])
    (untaken : j.session.takes step = []) : (j.step step).Sound of landed where
  books := by
    simp only [Journal.step, unposted, untaken, List.append_nil]
    exact books
  arrived := by
    simp only [Journal.step, quiet, List.append_nil]
    exact sound.arrived
  idle := idle
  barred := barred

theorem Sound.push {p : Posted} (sound : j.Sound of landed) (step : TransportStep)
    (time : p.time = j.exchange.now) (prompt : p.wait.isZero = true)
    (pushed : (j.step step).exchange = j.exchange.push p.address p.goods.incoming)
    (posted : j.session.posts step = [p])
    (arrived : j.session.arrivals step =
      j.exchange.arrivedAt (j.step step).exchange p.address)
    (untaken : j.session.takes step = []) (barred : (j.step step).barred = j.barred) :
    (j.step step).Sound of (landed ++ [p]) where
  books := by
    rw [pushed]
    simp only [Journal.step, posted, untaken, List.append_nil]
    exact sound.books.push sound.idle.listens.host time prompt
  arrived := by
    have here := Exchange.pushed_push j.exchange p.address p.goods.incoming
    have arrival : (⟨(j.exchange.push p.address p.goods.incoming).now, p.address,
        p.goods.incoming⟩ : Transport.Arrival) = p.arrival := by
      rw [Exchange.now_push, ← time, ← Posted.arrival_prompt prompt]
      rfl
    change j.arrived ++ j.session.arrivals step = _
    rw [arrived, pushed, Exchange.arrivedAt_more here.here, arrival, sound.arrived,
      List.map_append]
    rfl
  idle := by
    rw [pushed]
    exact sound.idle.push _ _
  barred a := by
    rw [pushed, barred, ← sound.barred a]
    unfold Exchange.push
    rw [Exchange.transport_after]
    rfl

theorem Sound.load {p : Posted} (sound : j.Sound of landed) (step : TransportStep)
    (time : p.time = j.exchange.now) (delayed : p.wait.isZero ≠ true)
    (loaded : (j.step step).exchange =
      (j.exchange.load p).wake (.courier j.exchange.transport.next))
    (posted : j.session.posts step = [p]) (quiet : j.session.arrivals step = [])
    (untaken : j.session.takes step = []) (barred : (j.step step).barred = j.barred) :
    (j.step step).Sound (Function.update of j.exchange.transport.next p) landed where
  books := by
    rw [loaded]
    simp only [Journal.step, posted, untaken, List.append_nil]
    exact sound.books.load time delayed
  arrived := by
    simp only [Journal.step, quiet, List.append_nil]
    exact sound.arrived
  idle := by
    rw [loaded]
    have listens : (j.exchange.load p).Listens none :=
      sound.idle.listens.of_same rfl fun _ => rfl
    exact Exchange.Idle.wake_courier (x := j.exchange.load p)
      ⟨listens, sound.idle.alone, sound.idle.absent⟩ _
  barred a := by
    rw [loaded, barred]
    exact sound.barred a

theorem isAvailable_setUnavailable (t : Transport) (address : String) (value : Bool) (a : String) :
    (t.setUnavailable address value).isAvailable a =
      if a = address then !value else t.isAvailable a := by
  cases value <;> by_cases same : a = address <;>
    simp [Transport.setUnavailable, Transport.isAvailable, same]

theorem Sound.same (sound : j.Sound of landed) {step : TransportStep}
    (same : (j.step step).exchange = j.exchange) (barred : (j.step step).barred = j.barred)
    (unposted : j.session.posts step = []) (quiet : j.session.arrivals step = [])
    (untaken : j.session.takes step = []) : (j.step step).Sound of landed :=
  sound.still step (same ▸ sound.books) (same ▸ sound.idle)
    (fun a => by rw [same, barred, sound.barred a]) unposted quiet untaken

theorem Sound.complete (sound : j.Sound of landed) (address : String) :
    (j.step (.complete address)).Sound of landed := by
  let b := (j.exchange.mailbox address).complete
  have unmoved : Transport.Unmoved j.exchange.transport
      (j.exchange.setMailbox address b).transport := Transport.unmoved_setMailbox rfl
  refine sound.still _ ?_ ?_ sound.barred rfl rfl rfl
  · exact sound.books.aside sound.books.ordered (.refl _) rfl rfl (Nat.le_refl _) unmoved.messages
  · exact sound.idle.setMailbox address (sound.idle.listens.elsewhere address nofun)

theorem Sound.unavailable (sound : j.Sound of landed) (address : String) (value : Bool) :
    (j.step (.unavailable address value)).Sound of landed := by
  have mailboxes : (j.exchange.setUnavailable address value).transport.mailboxes =
      j.exchange.transport.mailboxes := by cases value <;> rfl
  have parcels : (j.exchange.setUnavailable address value).transport.parcels =
      j.exchange.transport.parcels := by cases value <;> rfl
  have next : (j.exchange.setUnavailable address value).transport.next =
      j.exchange.transport.next := by cases value <;> rfl
  have mailbox : ∀ a, (j.exchange.setUnavailable address value).mailbox a =
      j.exchange.mailbox a := fun a => congrArg (fun boxes => (boxes.lookup a).getD {}) mailboxes
  refine sound.still _ ?_ ?_ (fun a => ?_) rfl rfl rfl
  · exact sound.books.aside sound.books.ordered (.refl _) parcels next (Nat.le_refl _)
      fun a => congrArg Mailbox.messages (mailbox a)
  · exact ⟨sound.idle.listens.of_same rfl mailbox, sound.idle.alone, sound.idle.absent⟩
  · change (j.exchange.transport.setUnavailable address value).isAvailable a =
      !Function.update j.barred address value a
    rw [isAvailable_setUnavailable, sound.barred a]
    by_cases same : a = address
    · rw [if_pos same, same, Function.update_self]
    · rw [if_neg same, Function.update_of_ne same]

theorem Sound.abandon (sound : j.Sound of landed) (address : String) (held : Nat)
    (body : Option Bytes) :
    ∃ landed', (j.step (.abandon address held body)).Sound of landed' := by
  cases found : j.session.held[held]? with
  | none =>
    have same : j.session.step (.abandon address held body) = (j.session, .nothing) := by
      simp only [TransportSession.step, found]
    refine ⟨landed, sound.same ?_ rfl ?_ ?_ ?_⟩
    · exact congrArg (·.1.exchange) same
    · simp only [TransportSession.posts, found]
      rfl
    · exact Exchange.arrivedAt_same (by rw [same])
    · rfl
  | some m =>
    let back := (body.map m.updateBody).getD m
    have pushed : (j.session.step (.abandon address held body)).1.exchange =
        j.exchange.push address back := by
      simp only [TransportSession.step, found]
      rfl
    refine ⟨_, sound.push (p := ⟨j.exchange.now, address, .returned back, []⟩) _ rfl rfl pushed ?_
      rfl rfl rfl⟩
    simp only [TransportSession.posts, found]
    rfl

theorem Sound.dispatch (sound : j.Sound of landed) (op : Operation) :
    ∃ of' landed', (j.step (.dispatch op)).Sound of' landed' := by
  have exchange : (j.step (.dispatch op)).exchange = (j.exchange.dispatch op).2 := rfl
  let p : Posted := ⟨j.exchange.now, op.destination, .fresh op.message, op.delays⟩
  cases available : j.exchange.transport.isAvailable op.destination with
  | false =>
    have refused := Exchange.dispatch_refused j.exchange available
    have same : (j.step (.dispatch op)).exchange = j.exchange := by rw [exchange, refused]
    have unheard := Exchange.arrivedAt_same
      (congrArg (·.transport.messagesAt op.destination) same)
    have unposted : j.session.posts (.dispatch op) = [] :=
      TransportSession.posts_refused (congrArg (·.1.failure) refused)
    exact ⟨of, landed, sound.same same rfl unposted unheard rfl⟩
  | true =>
    by_cases prompt : op.wait.isZero = true
    · obtain ⟨accepted, pushed⟩ := Exchange.dispatch_prompt j.exchange available prompt
      exact ⟨of, _, sound.push (p := p) _ rfl prompt (exchange.trans pushed)
        (TransportSession.posts_accepted accepted) rfl rfl rfl⟩
    · obtain ⟨accepted, loaded⟩ := Exchange.dispatch_delayed j.exchange available prompt
      have there := exchange.trans loaded
      have unheard := Exchange.arrivedAt_same
        (congrArg (·.transport.messagesAt op.destination) there)
      exact ⟨_, landed, sound.load (p := p) _ rfl prompt there
        (TransportSession.posts_accepted accepted) unheard rfl rfl⟩

theorem Sound.receive (sound : j.Sound of landed) (address : String) (poll : Duration) :
    ∃ landed', (j.step (.receive address poll)).Sound of landed' := by
  obtain ⟨⟨landed', books, arrived⟩, idle, unavailable, _⟩ :=
    TransportSession.books_receive sound.books sound.idle address poll
  refine ⟨landed', ?_, ?_, idle, fun a => ?_⟩
  · have unposted : j.session.posts (.receive address poll) = [] := rfl
    simp only [Journal.step, unposted, List.append_nil]
    exact books
  · change j.arrived ++ _ = _
    rw [arrived, sound.arrived]
    rfl
  · have same : (j.step (.receive address poll)).exchange.transport.unavailable =
      j.exchange.transport.unavailable := unavailable
    unfold Transport.isAvailable
    rw [same]
    exact sound.barred a

theorem Sound.advance (sound : j.Sound of landed) (length : Duration) :
    (∃ landed', (j.step (.advance length)).Sound of landed') ∧
      (j.step (.advance length)).exchange.now = j.exchange.agenda.due length := by
  cases prompt : length.isZero with
  | true =>
    have same : j.session.step (.advance length) = (j.session, .nothing) := if_pos prompt
    refine ⟨⟨landed, sound.same (congrArg (·.1.exchange) same) rfl rfl ?_ rfl⟩, ?_⟩
    · exact if_pos prompt
    · change (j.session.step (.advance length)).1.exchange.now = _
      rw [same, Agenda.due, Agenda.waitMillis, Duration.ceilMillis_zero prompt, Nat.zero_min]
      rfl
  | false =>
    have slow : ¬ length.isZero = true := by simp [prompt]
    have ahead : j.exchange.now ≤ j.exchange.agenda.due length := Nat.le_add_right _ _
    obtain ⟨⟨landed', books, arrived⟩, idle, now, unavailable⟩ :=
      sound.books.advance sound.idle ahead
    let x' := TransportSession.wait (j.exchange.sleepUntil .host (j.exchange.agenda.due length))
    have stepped : j.session.step (.advance length) =
        ({ j.session with exchange := x' }, .nothing) := if_neg slow
    have exchange : (j.step (.advance length)).exchange = x' := congrArg (·.1.exchange) stepped
    refine ⟨⟨landed', ?_, ?_, ?_, fun a => ?_⟩, ?_⟩
    · rw [exchange]
      simp only [Journal.step, TransportSession.posts, TransportSession.takes, List.append_nil]
      exact books
    · change j.arrived ++ j.session.arrivals (.advance length) = _
      rw [arrived, sound.arrived]
      exact congrArg _ (if_neg slow)
    · rw [exchange]
      exact idle
    · rw [exchange, Transport.isAvailable, unavailable]
      exact sound.barred a
    · rw [exchange, now]

theorem Sound.step (sound : j.Sound of landed) (step : TransportStep) :
    ∃ of' landed', (j.step step).Sound of' landed' := by
  cases step with
  | send address m =>
    exact ⟨of, _, sound.push (p := ⟨_, _, .fresh m, []⟩) _ rfl rfl rfl rfl rfl rfl rfl⟩
  | dispatch op => exact sound.dispatch op
  | receive address poll => exact ⟨of, sound.receive address poll⟩
  | complete address => exact ⟨of, landed, sound.complete address⟩
  | giveBack address m =>
    exact ⟨of, _, sound.push (p := ⟨_, _, .returned m, []⟩) _ rfl rfl rfl rfl rfl rfl rfl⟩
  | abandon address held body => exact ⟨of, sound.abandon address held body⟩
  | unavailable address value => exact ⟨of, landed, sound.unavailable address value⟩
  | advance length => exact ⟨of, (sound.advance length).1⟩
  | look => exact ⟨of, landed, sound.same rfl rfl rfl rfl rfl⟩

theorem sound_after (steps : List TransportStep) (sound : j.Sound of landed) :
    ∃ of' landed', (j.after steps).Sound of' landed' := by
  induction steps generalizing j of landed with
  | nil => exact ⟨of, landed, sound⟩
  | cons step rest ih =>
    obtain ⟨of', landed', next⟩ := sound.step step
    exact ih next

def arrivalsAt (arrived : List Transport.Arrival) (address : String) : List Incoming :=
  (arrived.filter (·.address = address)).map (·.message)

theorem arrivalsAt_landed (landed : List Posted) (address : String) :
    arrivalsAt (landed.map Posted.arrival) address = Exchange.landedAt landed address := by
  unfold arrivalsAt Exchange.landedAt
  rw [List.filter_map, List.map_map]
  rfl

theorem Sound.queue (sound : j.Sound of landed) (address : String) :
    Exchange.takenAt j.taken address ++ j.exchange.transport.messagesAt address =
      arrivalsAt j.arrived address := by
  rw [sound.arrived, arrivalsAt_landed]
  exact sound.books.queues address

theorem Sound.pending (sound : j.Sound of landed) {q : Parcel}
    (member : q ∈ j.exchange.transport.parcels) :
    ∃ d ∈ (of q.number).delays, d.isZero = false ∧
      j.exchange.now ≤ (of q.number).time + Agenda.waitMillis d := by
  have carries := sound.books.couriers.carries q member
  have round : q.round of ∈ j.exchange.rounds :=
    sound.books.couriers.rounds.symm.subset (List.mem_map_of_mem member)
  obtain ⟨⟨time, k⟩, appointed, same⟩ := List.mem_filterMap.1 round
  have ahead := sound.books.ordered.now_le _ appointed
  cases k with
  | courier number =>
    cases Option.some.inj same
    have due : q.due (of q.number) ≤ (of q.number).arrival.time := by
      unfold Parcel.due
      split
      · exact Nat.le_refl _
      · exact Nat.le_add_right _ _
    have slow : (of q.number).wait.isZero = false := by
      rw [← carries.wait]
      simpa using carries.delayed
    exact ⟨_, Duration.longestOf_mem slow, slow, Nat.le_trans ahead due⟩
  | _ => cases same

theorem takenAt_takes (s : TransportSession) (step : TransportStep) {other : String}
    (away : step.address? ≠ some other) : Exchange.takenAt (s.takes step) other = [] := by
  cases step with
  | receive address poll =>
    have different : address ≠ other := fun same => away (congrArg some same)
    simp [TransportSession.takes, TransportSession.step, Exchange.takenAt, different]
  | _ => rfl

theorem Sound.grown (sound : j.Sound of landed) (step : TransportStep) {other : String}
    (away : step.address? ≠ some other) :
    (j.step step).exchange.transport.messagesAt other =
      j.exchange.transport.messagesAt other ++ arrivalsAt (j.session.arrivals step) other := by
  obtain ⟨_, _, next⟩ := sound.step step
  have before := sound.queue other
  have later := next.queue other
  have taken : Exchange.takenAt (j.step step).taken other = Exchange.takenAt j.taken other := by
    have none := takenAt_takes j.session step away
    unfold Exchange.takenAt at none ⊢
    change ((j.taken ++ j.session.takes step).filter _).map _ = _
    rw [List.filter_append, List.map_append, none, List.append_nil]
  have arrived : arrivalsAt (j.step step).arrived other =
      arrivalsAt j.arrived other ++ arrivalsAt (j.session.arrivals step) other := by
    unfold arrivalsAt
    rw [← List.map_append, ← List.filter_append]
    rfl
  rw [taken, arrived, ← before, List.append_assoc] at later
  exact List.append_cancel_left later

theorem mailbox_elsewhere (s : TransportSession) (step : TransportStep) {other : String}
    (away : step.address? ≠ some other) (quick : step.takesTime = false) :
    (s.step step).1.exchange.mailbox other = s.exchange.mailbox other := by
  have pushed : ∀ address m, step.address? = some address →
      (s.exchange.push address m).mailbox other = s.exchange.mailbox other := by
    intro address m about
    have different : other ≠ address := fun same => away (same ▸ about)
    rw [Exchange.mailbox_push, if_neg different]
  cases step with
  | send address m => exact pushed address _ rfl
  | dispatch op =>
    change (s.exchange.dispatch op).2.mailbox other = _
    cases available : s.exchange.transport.isAvailable op.destination with
    | false => rw [Exchange.dispatch_refused _ available]
    | true =>
      by_cases prompt : op.wait.isZero = true
      · rw [(Exchange.dispatch_prompt _ available prompt).2]
        exact pushed op.destination _ rfl
      · rw [(Exchange.dispatch_delayed _ available prompt).2]
        rfl
  | complete address =>
    have different : other ≠ address := fun same => away (congrArg some same.symm)
    exact (Transport.mailbox_setMailbox _ _ _ _).trans (if_neg different)
  | giveBack address m => exact pushed address _ rfl
  | abandon address held body =>
    simp only [TransportSession.step]
    split
    · rfl
    · exact pushed address _ rfl
  | unavailable address value => cases value <;> rfl
  | look => rfl
  | receive | advance => cases quick

/-- What has arrived is what was posted, one by one; the rest is on its way. -/
theorem Sound.accounted (sound : j.Sound of landed) :
    ∃ landed pending, j.posted.Perm (landed ++ pending) ∧
      landed.Forall₂ Posted.ArrivesAs j.arrived ∧
      ∀ p ∈ pending, ∃ d ∈ p.delays, d.isZero = false ∧
        j.exchange.now ≤ p.time + Agenda.waitMillis d := by
  refine ⟨landed, _, sound.books.accounted, ?_, fun p member => ?_⟩
  · rw [sound.arrived, List.forall₂_map_right_iff, List.forall₂_same]
    exact fun p _ => p.arrivesAs_arrival
  · obtain ⟨q, known, rfl⟩ := List.mem_map.1 member
    exact sound.pending known

theorem Sound.inOrder (sound : j.Sound of landed) :
    j.arrived.Pairwise (·.time ≤ ·.time) ∧ ∀ a ∈ j.arrived, a.time ≤ j.exchange.now := by
  rw [sound.arrived, List.pairwise_map]
  refine ⟨sound.books.inOrder, fun a member => ?_⟩
  obtain ⟨p, known, rfl⟩ := List.mem_map.1 member
  exact sound.books.past p known

theorem Sound.answered (sound : j.Sound of landed) (op : Operation) :
    let next := j.session.step (.dispatch op)
    if j.barred op.destination then
      next.2 = .dispatched (some (.dispatch op.message.id op.destination "queue unavailable")) ∧
        next.1.exchange = j.exchange ∧ j.session.posts (.dispatch op) = []
    else
      next.2 = .dispatched none ∧
        j.session.posts (.dispatch op) =
          [⟨j.exchange.now, op.destination, .fresh op.message, op.delays⟩] := by
  have available := sound.barred op.destination
  cases barred : j.barred op.destination with
  | true =>
    rw [barred] at available
    have refused := Exchange.dispatch_refused j.exchange available
    refine ⟨?_, ?_, TransportSession.posts_refused (congrArg (·.1.failure) refused)⟩
    · exact congrArg (fun answer => TransportAnswer.dispatched answer.1.failure) refused
    · exact congrArg (·.2) refused
  | false =>
    rw [barred] at available
    have accepted : (j.exchange.dispatch op).1.failure = none := by
      by_cases prompt : op.wait.isZero = true
      · exact (Exchange.dispatch_prompt j.exchange available prompt).1
      · exact (Exchange.dispatch_delayed j.exchange available prompt).1
    exact ⟨congrArg TransportAnswer.dispatched accepted,
      TransportSession.posts_accepted accepted⟩

theorem Sound.received (sound : j.Sound of landed) {address : String} {poll : Duration}
    (nothing : (j.session.step (.receive address poll)).2 = .received none) :
    (j.step (.receive address poll)).exchange.transport.messagesAt address = [] := by
  obtain ⟨_, _, _, emptied⟩ :=
    TransportSession.books_receive sound.books sound.idle address poll
  exact emptied (TransportAnswer.received.inj nothing)

/-- Whatever a caller does, each message that was sent, dispatched with success or given back
arrives once, unchanged, where it was bound for, at once if it has no delay, and else when its delays
have passed. Delays of more than thirty years are the exception: their sleep ends early, and only
those for which `SleptOut` holds are waited for in full. Messages leave a queue in the order in
which they arrived there. A refused dispatch posts nothing, who receives nothing finds the queue
empty, and what is done at an address leaves the other queues alone. -/
theorem messages_arrive_once (steps : List TransportStep) :
    let j := after {} steps
    (∃ landed pending, j.posted.Perm (landed ++ pending) ∧
      landed.Forall₂ Posted.ArrivesAs j.arrived ∧
      ∀ p ∈ pending, ∃ d ∈ p.delays, d.isZero = false ∧
        j.exchange.now ≤ p.time + Agenda.waitMillis d) ∧
    (j.arrived.Pairwise (·.time ≤ ·.time) ∧ ∀ a ∈ j.arrived, a.time ≤ j.exchange.now) ∧
    (∀ address, Exchange.takenAt j.taken address ++ j.exchange.transport.messagesAt address =
      arrivalsAt j.arrived address) ∧
    (∀ op, let next := j.session.step (.dispatch op)
      if j.barred op.destination then
        next.2 = .dispatched (some (.dispatch op.message.id op.destination "queue unavailable")) ∧
          next.1.exchange = j.exchange ∧ j.session.posts (.dispatch op) = []
      else
        next.2 = .dispatched none ∧
          j.session.posts (.dispatch op) =
            [⟨j.exchange.now, op.destination, .fresh op.message, op.delays⟩]) ∧
    (∀ address poll, (j.session.step (.receive address poll)).2 = .received none →
      (j.step (.receive address poll)).exchange.transport.messagesAt address = []) ∧
    (∀ step other, step.address? ≠ some other →
      (j.step step).exchange.transport.messagesAt other =
        j.exchange.transport.messagesAt other ++ arrivalsAt (j.session.arrivals step) other ∧
      (step.takesTime = false → (j.step step).exchange.mailbox other = j.exchange.mailbox other)) ∧
    ∀ length, (j.step (.advance length)).exchange.now =
      j.exchange.now + Agenda.waitMillis length := by
  intro j
  obtain ⟨of, landed, sound⟩ := sound_after steps sound_start
  refine ⟨sound.accounted, sound.inOrder, sound.queue, sound.answered, ?_, ?_, ?_⟩
  · exact fun address poll nothing => sound.received nothing
  · exact fun step other away =>
      ⟨sound.grown step away, mailbox_elsewhere j.session step away⟩
  · exact fun length => (sound.advance length).2

/-- The second receive answers the knock of a message that is already taken. -/
example :
    let j := after {} [.dispatch ⟨⟨"late", default, []⟩, "orders", [.ofMillis 2, .zero]⟩,
      .advance (.ofMillis 1), .send "orders" ⟨"soon", default, []⟩, .receive "orders" .zero,
      .receive "orders" (.ofMillis 5), .receive "orders" (.ofMillis 5)]
    j.arrived.map (fun a => (a.time, a.message.id)) = [(1, "soon"), (2, "late")] ∧
      j.taken.map (·.2.id) = ["soon", "late"] := by decide +kernel

end Journal
end Redelivery
