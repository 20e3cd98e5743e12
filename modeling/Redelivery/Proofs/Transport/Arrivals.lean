import Redelivery.Proofs.Transport.Parcels

/-! Books about the messages of an exchange. The parcels are what was posted and has not arrived,
and what has arrived at an address was taken from there or waits there, in that order. Whatever is
done with the exchange, the books can be kept. -/
namespace Redelivery
namespace Exchange
variable {x x' : Exchange} {of : Nat → Posted} {posted posted' landed : List Posted}
  {taken : List (String × Incoming)} {address : String} {m : Incoming}

def takenAt (taken : List (String × Incoming)) (address : String) : List Incoming :=
  (taken.filter (·.1 = address)).map (·.2)

def landedAt (landed : List Posted) (address : String) : List Incoming :=
  (landed.filter (·.address = address)).map (·.goods.incoming)

structure Books (of : Nat → Posted) (posted landed : List Posted)
    (taken : List (String × Incoming)) (x : Exchange) : Prop where
  couriers : Couriers of x.transport.parcels x.transport.next x.rounds
  ordered : x.agenda.Ordered
  accounted : posted.Perm (landed ++ x.transport.parcels.map fun q => of q.number)
  past : ∀ p ∈ landed, p.arrival.time ≤ x.now
  inOrder : landed.Pairwise (·.arrival.time ≤ ·.arrival.time)
  queues : ∀ a, takenAt taken a ++ x.transport.messagesAt a = landedAt landed a

theorem Books.aside (books : Books of posted landed taken x) (ordered : x'.agenda.Ordered)
    (rounds : x'.rounds.Perm x.rounds) (parcels : x'.transport.parcels = x.transport.parcels)
    (next : x'.transport.next = x.transport.next) (later : x.now ≤ x'.now)
    (messages : ∀ a, x'.transport.messagesAt a = x.transport.messagesAt a) :
    Books of posted landed taken x' where
  couriers := by
    rw [parcels, next]
    exact books.couriers.perm (.refl _) rounds
  ordered := ordered
  accounted := by
    rw [parcels]
    exact books.accounted
  past p member := Nat.le_trans (books.past p member) later
  inOrder := books.inOrder
  queues a := by
    rw [messages]
    exact books.queues a

theorem Books.land {p : Posted} (books : Books of posted landed taken x)
    (couriers : Couriers of x'.transport.parcels x'.transport.next x'.rounds)
    (ordered : x'.agenda.Ordered)
    (accounted : posted'.Perm (landed ++ p :: x'.transport.parcels.map fun q => of q.number))
    (time : p.arrival.time = x'.now) (later : x.now ≤ x'.now)
    (here : x'.transport.messagesAt p.address =
      x.transport.messagesAt p.address ++ [p.goods.incoming])
    (elsewhere : ∀ a, a ≠ p.address → x'.transport.messagesAt a = x.transport.messagesAt a) :
    Books of posted' (landed ++ [p]) taken x' where
  couriers := couriers
  ordered := ordered
  accounted := by
    rw [List.append_assoc]
    exact accounted
  past q member := by
    rcases List.mem_append.1 member with old | new
    · exact Nat.le_trans (books.past q old) later
    · rw [List.mem_singleton.1 new, time]
  inOrder := by
    refine List.pairwise_append.2 ⟨books.inOrder, List.pairwise_singleton _ _, ?_⟩
    intro q old r new
    rw [List.mem_singleton.1 new, time]
    exact Nat.le_trans (books.past q old) later
  queues a := by
    have before := books.queues a
    unfold landedAt at before ⊢
    rw [List.filter_append, List.map_append, ← before]
    by_cases own : a = p.address
    · rw [own, here, List.append_assoc]
      simp
    · rw [elsewhere a own]
      simp [Ne.symm own]

theorem Books.take (books : Books of posted landed taken x) (ordered : x'.agenda.Ordered)
    (rounds : x'.rounds.Perm x.rounds) (parcels : x'.transport.parcels = x.transport.parcels)
    (later : x.now ≤ x'.now) (popped : Transport.Popped x.transport x'.transport address m) :
    Books of posted landed (taken ++ [(address, m)]) x' where
  couriers := by
    rw [parcels, popped.next]
    exact books.couriers.perm (.refl _) rounds
  ordered := ordered
  accounted := by
    rw [parcels]
    exact books.accounted
  past p member := Nat.le_trans (books.past p member) later
  inOrder := books.inOrder
  queues a := by
    have before := books.queues a
    unfold takenAt at before ⊢
    rw [List.filter_append, List.map_append, ← before]
    by_cases own : a = address
    · rw [own, popped.here]
      simp
    · rw [popped.elsewhere a own]
      simp [Ne.symm own]

theorem Books.push {p : Posted} (books : Books of posted landed taken x)
    (host : x.listener = .host) (time : p.time = x.now) (prompt : p.wait.isZero = true) :
    Books of (posted ++ [p]) (landed ++ [p]) taken (x.push p.address p.goods.incoming) := by
  obtain ⟨parcels, next⟩ := parcels_push x p.address p.goods.incoming
  have now := now_push x p.address p.goods.incoming
  have pushed := pushed_push x p.address p.goods.incoming
  refine books.land ?_ (ordered_push books.ordered _ _) ?_ ?_ now.ge pushed.here pushed.elsewhere
  · rw [parcels, next]
    exact books.couriers.perm (.refl _) (rounds_push host _ _)
  · rw [parcels]
    exact (List.perm_append_singleton _ _).trans
      ((books.accounted.cons p).trans List.perm_middle.symm)
  · rw [Posted.arrival_prompt prompt, time, now]

def load (x : Exchange) (p : Posted) : Exchange :=
  let t := x.transport
  let parcel : Parcel := ⟨t.next, p.address, p.goods.incoming, p.wait, false⟩
  { x with transport := { t with parcels := t.parcels ++ [parcel], next := t.next + 1 } }

theorem Books.load {p : Posted} (books : Books of posted landed taken x) (time : p.time = x.now)
    (delayed : p.wait.isZero ≠ true) :
    Books (Function.update of x.transport.next p) (posted ++ [p]) landed taken
      ((x.load p).wake (.courier x.transport.next)) := by
  let t := x.transport
  let parcel : Parcel := ⟨t.next, p.address, p.goods.incoming, p.wait, false⟩
  have unknown : Activity.courier t.next ∉ x.agenda.line := by
    intro inLine
    have round : (x.now, t.next) ∈ x.rounds :=
      List.mem_filterMap.2 ⟨(x.now, .courier t.next),
        List.mem_append_left _ (List.mem_map.2 ⟨_, inLine, rfl⟩), rfl⟩
    obtain ⟨q, member, same⟩ := List.mem_map.1 (books.couriers.rounds.subset round)
    have number : q.number = t.next := congrArg Prod.snd same
    have below : q.number < t.next := books.couriers.below q member
    omega
  have rounds : ((x.agenda.wake (.courier t.next)).appointments.filterMap round?).Perm
      ((p.time, t.next) :: x.rounds) := by
    have perm := (x.agenda.appointments_wake unknown).filterMap round?
    rw [time]
    exact perm
  have couriers := books.couriers.load (q := parcel) (p := p) rfl ⟨rfl, rfl, rfl, delayed⟩ rfl
  have now : (x.agenda.wake (.courier t.next)).now = x.now := by
    rw [Agenda.wake, if_neg unknown]
    rfl
  have same : t.parcels.map (fun q => Function.update of t.next p q.number) =
      t.parcels.map fun q => of q.number :=
    List.map_congr_left fun q member =>
      Function.update_of_ne (Nat.ne_of_lt (books.couriers.below q member)) p of
  refine ⟨couriers.perm (.refl _) rounds, books.ordered.wake _, ?_, ?_, books.inOrder,
    books.queues⟩
  · change (posted ++ [p]).Perm (landed ++ (t.parcels ++ [parcel]).map _)
    rw [List.map_append, same, List.map_singleton, Function.update_self, ← List.append_assoc]
    exact books.accounted.append_right [p]
  · intro q member
    change q.arrival.time ≤ (x.agenda.wake (.courier t.next)).now
    rw [now]
    exact books.past q member

theorem parcel?_eq {t : Transport} (apart : (t.parcels.map (·.number)).Nodup) {q : Parcel}
    (member : q ∈ t.parcels) : t.parcel? q.number = some q := by
  cases found : t.parcel? q.number with
  | none =>
    have missing := List.find?_eq_none.1 found q member
    simp at missing
  | some other =>
    obtain ⟨known, same⟩ := Transport.parcel?_label found
    rw [List.inj_on_of_nodup_map apart known member same]

section turns
variable {q : Parcel} (apart : (x.transport.parcels.map (·.number)).Nodup)
  (member : q ∈ x.transport.parcels)
include apart member

theorem courierTurn_started (started : q.started = true) :
    let left := { x.transport with parcels := others x.transport.parcels q.number }
    x.courierTurn q.number = { x with transport := left }.push q.address q.message := by
  simp only [courierTurn, parcel?_eq apart member, started, if_true]
  rfl

theorem courierTurn_unstarted (unstarted : q.started = false) :
    x.courierTurn q.number = { x with transport := x.transport.start q.number }.sleepUntil
      (.courier q.number) (x.agenda.due q.wait) := by
  simp only [courierTurn, parcel?_eq apart member, unstarted, Bool.false_eq_true, if_false]

end turns

def arrivedAt (x x' : Exchange) (address : String) : List Transport.Arrival :=
  ((x'.transport.messagesAt address).drop (x.transport.messagesAt address).length).map
    fun m => ⟨x'.now, address, m⟩

def delivered (x : Exchange) (number : Nat) : List Transport.Arrival :=
  match x.transport.parcel? number with
  | none => []
  | some q => x.arrivedAt (x.courierTurn number) q.address

theorem arrivedAt_same (same : x'.transport.messagesAt address = x.transport.messagesAt address) :
    x.arrivedAt x' address = [] := by
  rw [arrivedAt, same, List.drop_length]
  rfl

theorem arrivedAt_more (more : x'.transport.messagesAt address =
      x.transport.messagesAt address ++ [m]) :
    x.arrivedAt x' address = [⟨x'.now, address, m⟩] := by
  rw [arrivedAt, more, List.drop_left]
  rfl

structure Foremost (of : Nat → Posted) (x : Exchange) (agenda : Agenda Activity) (q : Parcel) :
    Prop where
  member : q ∈ x.transport.parcels
  due : q.due (of q.number) = agenda.now
  rest : Couriers of (others x.transport.parcels q.number) x.transport.next
    (agenda.appointments.filterMap round?)
  ordered : agenda.Ordered
  later : x.now ≤ agenda.now

theorem Books.foremost {agenda : Agenda Activity} {number : Nat}
    (books : Books of posted landed taken x)
    (next : x.agenda.next? = some (.courier number, agenda)) :
    ∃ q, q.number = number ∧ Foremost of x agenda q := by
  obtain ⟨appointments, ordered, later⟩ := Agenda.appointments_next books.ordered next
  have split : x.rounds = (agenda.now, number) :: agenda.appointments.filterMap round? := by
    rw [rounds, appointments]
    rfl
  have couriers := books.couriers
  rw [split] at couriers
  obtain ⟨q, member, rfl, due, rest⟩ := couriers.round
  exact ⟨q, rfl, member, due, rest, ordered, later⟩

section foremost
variable {agenda : Agenda Activity} {q : Parcel}

theorem Books.deliver (books : Books of posted landed taken x) (host : x.listener = .host)
    (foremost : Foremost of x agenda q) (started : q.started = true) :
    let y : Exchange := { x with agenda }
    Books of posted (landed ++ [of q.number]) taken (y.courierTurn q.number) ∧
      y.delivered q.number = [(of q.number).arrival] := by
  intro y
  obtain ⟨member, due, rest, ordered, later⟩ := foremost
  have found : y.transport.parcel? q.number = some q := parcel?_eq books.couriers.apart member
  have carries := books.couriers.carries q member
  let z : Exchange :=
    { y with transport := { x.transport with parcels := others x.transport.parcels q.number } }
  have turn : y.courierTurn q.number = z.push q.address q.message :=
    courierTurn_started (x := y) books.couriers.apart member started
  obtain ⟨parcels, next⟩ := parcels_push z q.address q.message
  have pushed := pushed_push z q.address q.message
  have here : (z.push q.address q.message).transport.messagesAt q.address =
      x.transport.messagesAt q.address ++ [q.message] := pushed.here
  have now : (z.push q.address q.message).now = agenda.now := now_push z q.address q.message
  have time : (of q.number).arrival.time = (z.push q.address q.message).now := by
    rw [now, ← due, Parcel.due, if_pos started]
  rw [delivered, found]
  simp only [turn]
  refine ⟨books.land ?_ (ordered_push ordered _ _) ?_ time (now.ge.trans' later) ?_ ?_, ?_⟩
  · rw [parcels, next]
    exact rest.perm (.refl _) (rounds_push (x := z) host _ _)
  · rw [parcels]
    exact books.accounted.trans (((perm_others books.couriers.apart member).map _).append_left _)
  · rw [← carries.address, ← carries.message]
    exact here
  · rw [← carries.address]
    exact pushed.elsewhere
  · rw [arrivedAt_more (x := y) here, ← time, carries.address, carries.message]
    rfl

theorem Books.start (books : Books of posted landed taken x)
    (foremost : Foremost of x agenda q) (unstarted : q.started = false) :
    let y : Exchange := { x with agenda }
    Books of posted landed taken (y.courierTurn q.number) ∧ y.delivered q.number = [] := by
  intro y
  obtain ⟨member, due, rest, ordered, later⟩ := foremost
  have found : y.transport.parcel? q.number = some q := parcel?_eq books.couriers.apart member
  have carries := books.couriers.carries q member
  have arrival : agenda.due q.wait = (of q.number).arrival.time := by
    rw [Parcel.due, unstarted, if_neg Bool.false_ne_true] at due
    rw [Agenda.due, ← due, carries.wait]
    rfl
  have turn : y.courierTurn q.number =
      { y with transport := x.transport.start q.number }.sleepUntil (.courier q.number)
        (of q.number).arrival.time := by
    rw [courierTurn_unstarted (x := y) books.couriers.apart member unstarted, ← arrival]
  have ahead : agenda.now ≤ (of q.number).arrival.time := arrival ▸ Nat.le_add_right _ _
  rw [delivered, found]
  simp only [turn]
  refine ⟨⟨?_, ordered.sleepUntil _ ahead, ?_, ?_, books.inOrder, books.queues⟩,
    arrivedAt_same rfl⟩
  · exact (books.couriers.start rest member).perm (.refl _)
      ((agenda.appointments_sleepUntil _ _).filterMap round?)
  · have same : (x.transport.start q.number).parcels.map (fun q => of q.number) =
        x.transport.parcels.map fun q => of q.number := by
      unfold Transport.start
      rw [List.map_map]
      refine List.map_congr_left fun p _ => ?_
      simp only [Function.comp_apply]
      split <;> rfl
    change posted.Perm (landed ++ (x.transport.start q.number).parcels.map _)
    rw [same]
    exact books.accounted
  · exact fun p member => Nat.le_trans (books.past p member) later

end foremost

theorem Books.turn {agenda : Agenda Activity} {number : Nat}
    (books : Books of posted landed taken x) (host : x.listener = .host)
    (next : x.agenda.next? = some (.courier number, agenda)) :
    ∃ landed', Books of posted landed' taken ({ x with agenda }.courierTurn number) ∧
      landed'.map Posted.arrival =
        landed.map Posted.arrival ++ { x with agenda }.delivered number := by
  obtain ⟨q, rfl, foremost⟩ := books.foremost next
  cases started : q.started with
  | true =>
    obtain ⟨kept, delivered⟩ := books.deliver host foremost started
    refine ⟨_, kept, ?_⟩
    rw [List.map_append, List.map_singleton, ← delivered]
  | false =>
    obtain ⟨kept, delivered⟩ := books.start foremost started
    refine ⟨_, kept, ?_⟩
    rw [delivered, List.append_nil]

end Exchange
end Redelivery
