import Redelivery.Exchange.Session
import Redelivery.Proofs.Transport.Arrivals

/-! A caller who waits. The caller sleeps until a time, perhaps listening at a mailbox, and
meanwhile couriers have their turns, two for each parcel at most. The caller goes on when its time
has come, or when a message has arrived where it listens. -/
namespace Redelivery
namespace Exchange
variable {x x' : Exchange} {of : Nat → Posted} {posted landed : List Posted}
  {taken : List (String × Incoming)} {place : Option String} {address : String} {m : Incoming}
  {time : Nat}

theorem mailbox_push (x : Exchange) (address : String) (m : Incoming) (a : String) :
    (x.push address m).mailbox a =
      if a = address then ((x.mailbox address).push m).1 else x.mailbox a := by
  unfold mailbox push
  rw [transport_after]
  exact Transport.mailbox_setMailbox _ _ _ _

theorem listener_push (b : Mailbox) (m : Incoming) :
    (b.push m).1.listener = if b.listener = .waiting then .roused else b.listener := by
  unfold Mailbox.push
  by_cases waits : b.listener = .waiting <;> simp [waits]

theorem listener_after (x : Exchange) (change : Transport × Bool) :
    (x.after change).listener = x.listener := by
  unfold after
  split <;> rfl

/-- Only the caller listens, at one place at most, where nothing waits for it. -/
structure Listens (place : Option String) (x : Exchange) : Prop where
  host : x.listener = .host
  elsewhere : ∀ a, place ≠ some a → (x.mailbox a).listener = .absent
  empty : ∀ a, (x.mailbox a).listener = .waiting → x.transport.messagesAt a = []

def Roused (x : Exchange) : Prop := ∃ a, (x.mailbox a).listener = .roused

theorem Listens.push (listens : x.Listens place) (address : String) (m : Incoming) :
    (x.push address m).Listens place where
  host := (listener_after x _).trans listens.host
  elsewhere a away := by
    have absent := listens.elsewhere a away
    rw [mailbox_push]
    split
    · rename_i same
      rw [← same, listener_push, absent]
      rfl
    · exact absent
  empty a waits := by
    rw [mailbox_push] at waits
    split at waits
    · rw [listener_push] at waits
      split at waits
      · cases waits
      · rename_i waits'
        exact absurd waits waits'
    · rename_i away
      rw [(pushed_push x address m).elsewhere a away]
      exact listens.empty a waits

theorem Listens.of_same (listens : x.Listens place) (host : x'.listener = x.listener)
    (same : ∀ a, x'.mailbox a = x.mailbox a) : x'.Listens place where
  host := host.trans listens.host
  elsewhere a away := by
    rw [same]
    exact listens.elsewhere a away
  empty a waits := by
    rw [same] at waits
    exact (congrArg Mailbox.messages (same a)).trans (listens.empty a waits)

inductive CourierWay (x : Exchange) (x' : Exchange) : Prop where
  | idle (same : x' = x)
  | pushed (parcels : List Parcel) (address : String) (m : Incoming)
      (same : x' = { x with transport := { x.transport with parcels } }.push address m)
  | started (parcels : List Parcel) (number time : Nat)
      (same : x' = { x with
        transport := { x.transport with parcels } }.sleepUntil (.courier number) time)

theorem way_courierTurn (x : Exchange) (number : Nat) : CourierWay x (x.courierTurn number) := by
  unfold courierTurn
  split
  · exact .idle rfl
  · split
    · exact .pushed _ _ _ rfl
    · exact .started _ _ _ rfl

theorem Listens.courierTurn (listens : x.Listens place) (number : Nat) :
    (x.courierTurn number).Listens place := by
  cases way_courierTurn x number with
  | idle same => rwa [same]
  | pushed parcels address m same =>
    let y : Exchange := { x with transport := { x.transport with parcels } }
    have unheard : y.Listens place := listens.of_same rfl fun _ => rfl
    rw [same]
    exact unheard.push address m
  | started parcels number time same =>
    rw [same]
    exact listens.of_same rfl fun _ => rfl

theorem unavailable_courierTurn (x : Exchange) (number : Nat) :
    (x.courierTurn number).transport.unavailable = x.transport.unavailable := by
  cases way_courierTurn x number with
  | idle same => rw [same]
  | pushed parcels address m same =>
    rw [same, push, transport_after]
    rfl
  | started parcels number time same =>
    rw [same]
    rfl

def Alone (x : Exchange) : Prop :=
  ∀ e ∈ x.agenda.appointments, e.2 = .host ∨ ∃ number, e.2 = .courier number

def callers (a : Agenda Activity) : Nat := (a.appointments.map (·.2)).count .host

/-- The caller sleeps until a time, or was roused and stands in line. -/
inductive Waits (time : Nat) (x : Exchange) : Prop where
  | dozing (undisturbed : ¬ x.Roused) (once : callers x.agenda = 1)
      (punctual : ∀ e ∈ x.agenda.appointments, e.2 = .host → e.1 = time)
  | roused (roused : x.Roused) (once : x.agenda.line.count .host = 1)

inductive Woken (time : Nat) (x : Exchange) : Prop where
  | rested (undisturbed : ¬ x.Roused) (now : x.now = time) (gone : callers x.agenda = 0)
  | roused (roused : x.Roused) (gone : x.agenda.line.count .host = 0)

theorem Alone.push (alone : x.Alone) (host : x.listener = .host) (address : String)
    (m : Incoming) : (x.push address m).Alone := by
  intro e member
  rcases x.agenda_push address m with ⟨_, same⟩ | ⟨_, same⟩
  · rw [same, host] at member
    by_cases inLine : Activity.host ∈ x.agenda.line
    · rw [x.agenda.wake_inLine inLine] at member
      exact alone e member
    · rcases List.mem_cons.1 ((x.agenda.appointments_wake inLine).subset member) with rfl | old
      · exact .inl rfl
      · exact alone e old
  · rw [same] at member
    exact alone e member

theorem Alone.courierTurn (alone : x.Alone) (host : x.listener = .host) (number : Nat) :
    (x.courierTurn number).Alone := by
  cases way_courierTurn x number with
  | idle same => rwa [same]
  | pushed parcels address m same =>
    rw [same]
    exact Alone.push (x := { x with transport := { x.transport with parcels } }) alone host _ _
  | started parcels number time same =>
    rw [same]
    intro e member
    rcases List.mem_cons.1 ((x.agenda.appointments_sleepUntil (.courier number) time).subset
      member) with rfl | old
    · exact .inr ⟨number, rfl⟩
    · exact alone e old

theorem callers_eq_zero {a : Agenda Activity} :
    callers a = 0 ↔ ∀ e ∈ a.appointments, e.2 ≠ .host := by
  unfold callers
  rw [List.count_eq_zero]
  constructor
  · intro none e member same
    exact none (List.mem_map.2 ⟨e, member, same⟩)
  · intro none member
    obtain ⟨e, known, same⟩ := List.mem_map.1 member
    exact none e known same

theorem callers_eq (a : Agenda Activity) :
    callers a = a.line.count .host + (a.timers.map (·.2)).count .host := by
  rw [callers, Agenda.appointments, List.map_append, List.count_append, List.map_map]
  exact congrArg (· + _) (congrArg (List.count _) (List.map_id _))

theorem roused_push (x : Exchange) (address : String) (m : Incoming) :
    (x.push address m).Roused ↔ x.Roused ∨ (x.mailbox address).listener = .waiting := by
  constructor
  · rintro ⟨a, roused⟩
    rw [mailbox_push] at roused
    split at roused
    · rw [listener_push] at roused
      split at roused
      · rename_i waits
        exact .inr waits
      · exact .inl ⟨address, roused⟩
    · exact .inl ⟨a, roused⟩
  · rintro (⟨a, roused⟩ | waits)
    · refine ⟨a, ?_⟩
      rw [mailbox_push]
      split
      · rename_i same
        rw [listener_push, ← same, roused]
        rfl
      · exact roused
    · refine ⟨address, ?_⟩
      rw [mailbox_push, if_pos rfl, listener_push, if_pos waits]

theorem count_wake_host {a : Agenda Activity} (once : a.line.count .host ≤ 1) :
    (a.wake .host).line.count .host = 1 := by
  by_cases inLine : Activity.host ∈ a.line
  · rw [a.wake_inLine inLine]
    exact Nat.le_antisymm once (List.count_pos_iff.2 inLine)
  · rw [Agenda.wake, if_neg inLine, List.count_append, List.count_eq_zero_of_not_mem inLine]
    rfl

theorem Waits.push (waits : x.Waits time) (host : x.listener = .host) (address : String)
    (m : Incoming) : (x.push address m).Waits time := by
  rcases x.agenda_push address m with ⟨listening, same⟩ | ⟨unheard, same⟩
  · refine .roused ((roused_push x address m).2 (.inr listening)) ?_
    rw [same, host]
    apply count_wake_host
    cases waits with
    | dozing _ once =>
      rw [callers_eq] at once
      omega
    | roused _ once => exact once.le
  · cases waits with
    | dozing undisturbed once punctual =>
      refine .dozing (fun roused => ?_) (same ▸ once) (same ▸ punctual)
      exact ((roused_push x address m).1 roused).elim undisturbed unheard
    | roused roused once => exact .roused ((roused_push x address m).2 (.inl roused)) (same ▸ once)

theorem Waits.courierTurn {agenda : Agenda Activity} {number : Nat} (waits : x.Waits time)
    (ordered : x.agenda.Ordered) (host : x.listener = .host)
    (next : x.agenda.next? = some (.courier number, agenda)) :
    ({ x with agenda }.courierTurn number).Waits time := by
  obtain ⟨appointments, _, _⟩ := Agenda.appointments_next ordered next
  have popped : Waits time { x with agenda } := by
    cases waits with
    | dozing undisturbed once punctual =>
      refine .dozing undisturbed ?_ fun e member => punctual e ?_
      · rw [callers, appointments, List.map_cons, List.count_cons_of_ne (by simp)] at once
        exact once
      · rw [appointments]
        exact List.mem_cons_of_mem _ member
    | roused roused once =>
      refine .roused roused ?_
      unfold Agenda.next? at next
      cases line : x.agenda.line with
      | nil =>
        rw [line] at once
        cases once
      | cons first rest =>
        rw [line] at next once
        cases next
        rwa [List.count_cons_of_ne (by simp)] at once
  cases way_courierTurn { x with agenda } number with
  | idle same => rwa [same]
  | pushed parcels address m same =>
    rw [same]
    have moved : Waits time { x with agenda, transport := { x.transport with parcels } } := by
      cases popped with
      | dozing undisturbed once punctual => exact .dozing undisturbed once punctual
      | roused roused once => exact .roused roused once
    exact moved.push host address m
  | started parcels number time' same =>
    rw [same]
    cases popped with
    | dozing undisturbed once punctual =>
      have more := agenda.appointments_sleepUntil (.courier number) time'
      refine .dozing undisturbed ?_ fun e member caller => ?_
      · change callers (agenda.sleepUntil (.courier number) time') = 1
        rw [callers, (more.map _).count_eq, List.map_cons, List.count_cons_of_ne (by simp)]
        exact once
      · rcases List.mem_cons.1 (more.subset member) with rfl | old
        · cases caller
        · exact punctual e old caller
    | roused roused once => exact .roused roused once

theorem Waits.host {agenda : Agenda Activity} (waits : x.Waits time)
    (ordered : x.agenda.Ordered) (next : x.agenda.next? = some (.host, agenda)) :
    Woken time { x with agenda } := by
  obtain ⟨appointments, _, _⟩ := Agenda.appointments_next ordered next
  cases waits with
  | dozing undisturbed once punctual =>
    refine .rested undisturbed (punctual _ (appointments ▸ List.mem_cons_self) rfl) ?_
    rw [callers, appointments, List.map_cons, List.count_cons_self] at once
    exact Nat.succ.inj once
  | roused roused once =>
    refine .roused roused ?_
    unfold Agenda.next? at next
    cases line : x.agenda.line with
    | nil =>
      rw [line] at once
      cases once
    | cons first rest =>
      rw [line] at next once
      cases next
      rw [List.count_cons_self] at once
      exact Nat.succ.inj once

def turnsLeft (parcels : List Parcel) : Nat := parcels.length + parcels.countP (!·.started)

theorem turnsLeft_le (parcels : List Parcel) : turnsLeft parcels ≤ 2 * parcels.length := by
  have unstarted : parcels.countP (!·.started) ≤ parcels.length := List.countP_le_length
  unfold turnsLeft
  omega

theorem turnsLeft_split {parcels parcels' : List Parcel} {q : Parcel}
    (split : parcels.Perm (q :: parcels')) :
    turnsLeft parcels = (if q.started then 1 else 2) + turnsLeft parcels' := by
  unfold turnsLeft
  rw [split.length_eq, split.countP_eq, List.length_cons, List.countP_cons]
  cases q.started <;> simp <;> omega

theorem turnsLeft_courierTurn (agenda : Agenda Activity) {q : Parcel}
    (apart : (x.transport.parcels.map (·.number)).Nodup) (member : q ∈ x.transport.parcels) :
    turnsLeft ({ x with agenda }.courierTurn q.number).transport.parcels + 1 =
      turnsLeft x.transport.parcels := by
  let y : Exchange := { x with agenda }
  have whole := turnsLeft_split (perm_others apart member)
  cases started : q.started with
  | true =>
    rw [courierTurn_started (x := y) apart member started, (parcels_push _ _ _).1, whole, started]
    exact Nat.add_comm _ _
  | false =>
    have begun := turnsLeft_split (perm_start apart member)
    rw [courierTurn_unstarted (x := y) apart member started, whole, started]
    change turnsLeft (y.transport.start q.number).parcels + 1 = _
    rw [Transport.start, begun]
    simp
    omega

def arrivalsWithin : Nat → Exchange → List Transport.Arrival
  | 0, _ => []
  | turns + 1, x =>
    match x.agenda.next? with
    | some (.courier number, agenda) =>
      let y : Exchange := { x with agenda }
      y.delivered number ++ arrivalsWithin turns (y.courierTurn number)
    | _ => []

/-- What a wait comes to: the caller goes on, and the books are kept of what arrived meanwhile. -/
structure Waited (of : Nat → Posted) (posted landed : List Posted)
    (taken : List (String × Incoming)) (place : Option String) (time : Nat) (x x' : Exchange)
    (arrivals : List Transport.Arrival) : Prop where
  books : ∃ landed', Books of posted landed' taken x' ∧
    landed'.map Posted.arrival = landed.map Posted.arrival ++ arrivals
  listens : x'.Listens place
  woken : x'.Woken time
  alone : x'.Alone
  unavailable : x'.transport.unavailable = x.transport.unavailable

theorem waited_untilHost (turns : Nat) (books : Books of posted landed taken x)
    (listens : x.Listens place) (waits : x.Waits time) (alone : x.Alone)
    (enough : turnsLeft x.transport.parcels < turns) :
    Waited of posted landed taken place time x (TransportSession.untilHost turns x)
      (arrivalsWithin turns x) := by
  -- On the turns until the caller goes on. Couriers have finitely many turns left, so it does.
  induction turns generalizing x landed with
  | zero => omega
  | succ turns ih =>
    unfold TransportSession.untilHost arrivalsWithin
    cases next : x.agenda.next? with
    | none =>
      have nobody := Agenda.appointments_nil next
      cases waits with
      | dozing _ once => simp [callers, nobody] at once
      | roused _ once =>
        have none : x.agenda.line = [] := by
          have both := List.append_eq_nil_iff.1 nobody
          exact List.map_eq_nil_iff.1 both.1
        simp [none] at once
    | some entry =>
      obtain ⟨k, agenda⟩ := entry
      obtain ⟨appointments, ordered, later⟩ := Agenda.appointments_next books.ordered next
      rcases alone (agenda.now, k) (appointments ▸ List.mem_cons_self) with
        caller | ⟨number, courier⟩
      · cases caller
        refine ⟨⟨landed, ?_, (List.append_nil _).symm⟩, listens.of_same rfl fun _ => rfl,
          waits.host books.ordered next, ?_, rfl⟩
        · refine books.aside ordered ?_ rfl rfl later fun _ => rfl
          rw [rounds, rounds, appointments]
          exact .refl _
        · exact fun e member => alone e (appointments ▸ List.mem_cons_of_mem _ member)
      · cases courier
        obtain ⟨landed', kept, arrived⟩ := books.turn listens.host next
        obtain ⟨q, rfl, foremost⟩ := books.foremost next
        have fewer := turnsLeft_courierTurn agenda books.couriers.apart foremost.member
        let y : Exchange := { x with agenda }
        have aside : y.Alone :=
          fun e member => alone e (appointments ▸ List.mem_cons_of_mem _ member)
        have unheard : y.Listens place := listens.of_same rfl fun _ => rfl
        obtain ⟨⟨landed'', kept', arrived'⟩, listens', woken, alone', unavailable⟩ :=
          ih kept (unheard.courierTurn q.number) (waits.courierTurn books.ordered listens.host next)
            (aside.courierTurn listens.host q.number) (by omega)
        refine ⟨⟨landed'', kept', ?_⟩, listens', woken, alone', ?_⟩
        · rw [arrived', arrived, List.append_assoc]
        · exact unavailable.trans (unavailable_courierTurn y q.number)

end Exchange
end Redelivery
