import Redelivery.Proofs.Transport.Waiting

/-! What a caller does with an exchange: it dispatches, lets time pass and receives. Each time the
books are kept, and afterwards nobody listens and only couriers have business left. -/
namespace Redelivery
namespace Exchange
variable {x x' : Exchange} {of : Nat → Posted} {posted landed : List Posted}
  {taken : List (String × Incoming)} {address : String} {m : Incoming} {time : Nat}

/-- Nobody listens, and only couriers have appointments. -/
structure Idle (x : Exchange) : Prop where
  listens : x.Listens none
  alone : x.Alone
  absent : callers x.agenda = 0

theorem Idle.undisturbed (idle : x.Idle) : ¬ x.Roused := by
  rintro ⟨a, roused⟩
  rw [idle.listens.elsewhere a nofun] at roused
  cases roused

theorem Idle.push (idle : x.Idle) (address : String) (m : Incoming) :
    (x.push address m).Idle := by
  refine ⟨idle.listens.push address m, idle.alone.push idle.listens.host address m, ?_⟩
  rcases x.agenda_push address m with ⟨waits, _⟩ | ⟨_, same⟩
  · rw [idle.listens.elsewhere address nofun] at waits
    cases waits
  · rw [same]
    exact idle.absent

theorem Idle.setMailbox (idle : x.Idle) (address : String) {b : Mailbox}
    (absent : b.listener = .absent) : (x.setMailbox address b).Idle := by
  have nobody : ∀ a, ((x.setMailbox address b).mailbox a).listener = .absent := by
    intro a
    unfold Exchange.mailbox Exchange.setMailbox
    rw [Transport.mailbox_setMailbox]
    split
    · exact absent
    · exact idle.listens.elsewhere a nofun
  refine ⟨⟨idle.listens.host, fun a _ => nobody a, fun a waits => ?_⟩, idle.alone, idle.absent⟩
  rw [nobody a] at waits
  cases waits

theorem Idle.wake_courier (idle : x.Idle) (number : Nat) : (x.wake (.courier number)).Idle := by
  have listens : (x.wake (.courier number)).Listens none := idle.listens.of_same rfl fun _ => rfl
  by_cases inLine : Activity.courier number ∈ x.agenda.line
  · have same := x.agenda.wake_inLine inLine
    refine ⟨listens, fun e member => idle.alone e (same ▸ member), ?_⟩
    exact (congrArg callers same).trans idle.absent
  · have more := x.agenda.appointments_wake inLine
    refine ⟨listens, fun e member => ?_, ?_⟩
    · rcases List.mem_cons.1 (more.subset member) with rfl | old
      · exact .inr ⟨number, rfl⟩
      · exact idle.alone e old
    · change callers (x.agenda.wake (.courier number)) = 0
      rw [callers, (more.map _).count_eq, List.map_cons, List.count_cons_of_ne (by simp)]
      exact idle.absent

theorem messagesAt_setMailbox (x : Exchange) (address : String) (b : Mailbox) (a : String) :
    (x.setMailbox address b).transport.messagesAt a =
      if a = address then b.messages else x.transport.messagesAt a := by
  unfold Transport.messagesAt Exchange.setMailbox
  rw [Transport.mailbox_setMailbox]
  split <;> rfl

theorem dispatch_refused (x : Exchange) {op : Operation}
    (barred : x.transport.isAvailable op.destination = false) :
    x.dispatch op = ({ failure := some (Transport.refusal op) }, x) := by
  unfold dispatch Transport.post
  rw [barred]
  rfl

theorem dispatch_prompt (x : Exchange) {op : Operation}
    (available : x.transport.isAvailable op.destination = true)
    (prompt : op.wait.isZero = true) :
    (x.dispatch op).1.failure = none ∧
      (x.dispatch op).2 = x.push op.destination op.message.toIncoming := by
  have posted : x.transport.post op =
      ((x.transport.push op.destination op.message.toIncoming).1,
        .arrived (x.transport.push op.destination op.message.toIncoming).2) := by
    rw [Transport.post, if_pos available, if_pos prompt]
  unfold dispatch
  rw [posted]
  exact ⟨rfl, rfl⟩

theorem dispatch_delayed (x : Exchange) {op : Operation}
    (available : x.transport.isAvailable op.destination = true)
    (delayed : op.wait.isZero ≠ true) :
    (x.dispatch op).1.failure = none ∧
      (x.dispatch op).2 = (x.load ⟨x.now, op.destination, .fresh op.message, op.delays⟩).wake
        (.courier x.transport.next) := by
  let loaded := x.load ⟨x.now, op.destination, .fresh op.message, op.delays⟩
  have posted : x.transport.post op = (loaded.transport, .onItsWay x.transport.next) := by
    rw [Transport.post, if_pos available, if_neg delayed]
    rfl
  unfold dispatch
  rw [posted]
  exact ⟨rfl, rfl⟩

theorem callers_sleepUntil (a : Agenda Activity) (time : Nat) :
    callers (a.sleepUntil .host time) = callers a + 1 := by
  rw [callers, ((a.appointments_sleepUntil .host time).map _).count_eq]
  exact List.count_cons_self

theorem callers_cancel (a : Agenda Activity) : callers (a.cancel .host) = a.line.count .host := by
  rw [callers_eq]
  have gone : ((a.timers.filter (·.2 ≠ .host)).map (·.2)).count Activity.host = 0 := by
    apply List.count_eq_zero.2
    intro member
    obtain ⟨timer, left, caller⟩ := List.mem_map.1 member
    exact absurd caller (by simpa using (List.mem_filter.1 left).2)
  change a.line.count .host + ((a.timers.filter (·.2 ≠ .host)).map (·.2)).count .host = _
  rw [gone, Nat.add_zero]

theorem waits_sleepUntil (alone : x.Alone) (undisturbed : ¬ x.Roused)
    (absent : callers x.agenda = 0) (time : Nat) :
    (x.sleepUntil .host time).Waits time ∧ (x.sleepUntil .host time).Alone := by
  have more := x.agenda.appointments_sleepUntil .host time
  refine ⟨.dozing undisturbed ?_ fun e member caller => ?_, fun e member => ?_⟩
  · change callers (x.agenda.sleepUntil .host time) = 1
    rw [callers_sleepUntil, absent]
  · rcases List.mem_cons.1 (more.subset member) with rfl | old
    · rfl
    · exact absurd caller (callers_eq_zero.1 absent e old)
  · rcases List.mem_cons.1 (more.subset member) with rfl | old
    · exact .inl rfl
    · exact alone e old

theorem Woken.notInLine (woken : x.Woken time) : x.agenda.line.count .host = 0 := by
  cases woken with
  | rested _ _ gone =>
    rw [callers_eq] at gone
    omega
  | roused _ gone => exact gone

theorem Books.advance (books : Books of posted landed taken x) (idle : x.Idle)
    (ahead : x.now ≤ time) :
    let y := x.sleepUntil .host time
    let x' := TransportSession.wait y
    (∃ landed', Books of posted landed' taken x' ∧ landed'.map Posted.arrival =
      landed.map Posted.arrival ++ arrivalsWithin (2 * y.transport.parcels.length + 1) y) ∧
    x'.Idle ∧ x'.now = time ∧ x'.transport.unavailable = x.transport.unavailable := by
  intro y x'
  obtain ⟨waits, alone⟩ := waits_sleepUntil idle.alone idle.undisturbed idle.absent time
  have begun : Books of posted landed taken y :=
    books.aside (books.ordered.sleepUntil .host ahead) (rounds_sleepUntil x.agenda time rfl) rfl rfl
      (Nat.le_refl _) fun _ => rfl
  have listens : y.Listens none := idle.listens.of_same rfl fun _ => rfl
  have enough := Nat.lt_succ_of_le (turnsLeft_le y.transport.parcels)
  obtain ⟨kept, listens', woken, alone', unavailable⟩ :=
    waited_untilHost _ begun listens waits alone enough
  cases woken with
  | rested _ now gone => exact ⟨kept, ⟨listens', alone', gone⟩, now, unavailable⟩
  | roused roused =>
    obtain ⟨a, roused⟩ := roused
    rw [listens'.elsewhere a nofun] at roused
    cases roused

inductive Tried (x : Exchange) (address : String) :
    Option (Option Incoming) × Exchange → Prop where
  | answered (b : Mailbox) (absent : b.listener = .absent)
      (same : b.messages = x.transport.messagesAt address) :
      Tried x address (some b.pop.1, x.setMailbox address b.pop.2)
  | nothing (empty : x.transport.messagesAt address = []) : Tried x address (none, x)

theorem pop_nil {b : Mailbox} (empty : b.messages = []) : b.pop = (none, b) := by
  unfold Mailbox.pop
  rw [empty]

theorem pop_cons {b : Mailbox} {rest : List Incoming} (more : b.messages = m :: rest) :
    b.pop = (some m, { b with messages := rest }) := by
  unfold Mailbox.pop
  rw [more]

theorem tried_tryReceive (idle : x.Idle) (address : String) :
    Tried x address (x.tryReceive address) := by
  have absent := idle.listens.elsewhere address nofun
  have answered (b : Mailbox) (gone : b.listener = .absent)
      (same : b.messages = x.transport.messagesAt address) :
      Tried x address (some b.pop.1, x.setMailbox address b.pop.2) := .answered b gone same
  unfold tryReceive
  cases messages : (x.mailbox address).messages with
  | cons m rest =>
    have popped := answered (x.mailbox address) absent rfl
    simp only [pop_cons messages] at popped ⊢
    exact popped
  | nil =>
    simp only [pop_nil messages]
    split
    · have popped := answered { x.mailbox address with knocked := false } absent rfl
      rw [pop_nil (b := { x.mailbox address with knocked := false }) messages] at popped
      exact popped
    · exact .nothing messages

theorem absent_pop {b : Mailbox} (absent : b.listener = .absent) :
    b.pop.2.listener = .absent := by
  unfold Mailbox.pop
  split <;> exact absent

theorem Books.popped (books : Books of posted landed taken x) {b : Mailbox}
    (same : b.messages = x.transport.messagesAt address) :
    let x' := x.setMailbox address b.pop.2
    Books of posted landed (taken ++ b.pop.1.toList.map (address, ·)) x' ∧
      (b.pop.1 = none → x'.transport.messagesAt address = []) := by
  intro x'
  have gave := x.gave_pop address same
  cases messages : b.messages with
  | nil =>
    have none : b.pop.1 = none := by rw [pop_nil messages]
    rw [none] at gave ⊢
    refine ⟨?_, fun _ => (gave.messages address).trans (same.symm.trans messages)⟩
    rw [Option.toList_none, List.map_nil, List.append_nil]
    exact books.aside books.ordered (.refl _) rfl rfl (Nat.le_refl _) gave.messages
  | cons m rest =>
    have some : b.pop.1 = some m := by rw [pop_cons messages]
    rw [some] at gave ⊢
    exact ⟨books.take books.ordered (.refl _) rfl (Nat.le_refl _) gave, nofun⟩

theorem Books.cancel (books : Books of posted landed taken x) :
    Books of posted landed taken (x.cancel .host) :=
  books.aside (books.ordered.cancel _) (.of_eq (rounds_cancel x.agenda round_host)) rfl rfl
    (Nat.le_refl _) fun _ => rfl

theorem idle_cancel (host : x.listener = .host) (alone : x.Alone)
    (inLine : x.agenda.line.count .host = 0)
    (nobody : ∀ a, (x.mailbox a).listener = .absent) : (x.cancel .host).Idle := by
  refine ⟨⟨host, fun a _ => nobody a, fun a waits => ?_⟩, fun e member => ?_, ?_⟩
  · exact absurd ((nobody a).symm.trans waits) nofun
  · have old : e ∈ x.agenda.appointments := by
      rcases List.mem_append.1 member with inLine | timer
      · exact List.mem_append_left _ inLine
      · exact List.mem_append_right _ (List.mem_filter.1 timer).1
    exact alone e old
  · exact (callers_cancel x.agenda).trans inLine

theorem hear_woken (x : Exchange) (address : String)
    (ready : (x.mailbox address).listener = .roused ∨ time ≤ x.now) :
    ∃ b : Mailbox, b.listener = .absent ∧ b.messages = x.transport.messagesAt address ∧
      x.hear address time =
        (some b.pop.1, (x.setMailbox address b.pop.2).cancel x.listener) := by
  unfold hear
  by_cases roused : (x.mailbox address).listener = .roused
  · refine ⟨(x.mailbox address).answer, rfl, rfl, ?_⟩
    simp only [roused, if_true]
  · refine ⟨(x.mailbox address).leave, rfl, rfl, ?_⟩
    simp only [roused, if_false, ready.resolve_left roused, if_true]

theorem Woken.ready (woken : x.Woken time) (listens : x.Listens (some address)) :
    (x.mailbox address).listener = .roused ∨ time ≤ x.now := by
  cases woken with
  | rested _ now => exact .inr now.ge
  | roused roused =>
    obtain ⟨a, roused⟩ := roused
    by_cases own : a = address
    · exact .inl (own ▸ roused)
    · have absent := listens.elsewhere a fun same => own (Option.some.inj same).symm
      rw [absent] at roused
      cases roused

theorem Books.heard (books : Books of posted landed taken x)
    (listens : x.Listens (some address)) (alone : x.Alone)
    (inLine : x.agenda.line.count .host = 0)
    (ready : (x.mailbox address).listener = .roused ∨ time ≤ x.now) :
    ∃ found x', x.hear address time = (some found, x') ∧
      Books of posted landed (taken ++ found.toList.map (address, ·)) x' ∧ x'.Idle ∧
      x'.transport.unavailable = x.transport.unavailable ∧
      (found = none → x'.transport.messagesAt address = []) := by
  obtain ⟨b, absent, same, heard⟩ := hear_woken x address ready
  obtain ⟨kept, emptied⟩ := books.popped same
  rw [listens.host] at heard
  refine ⟨_, _, heard, kept.cancel, idle_cancel listens.host alone inLine fun a => ?_, rfl, emptied⟩
  unfold Exchange.mailbox Exchange.setMailbox
  rw [Transport.mailbox_setMailbox]
  split
  · exact absent_pop absent
  · rename_i away
    exact listens.elsewhere a fun same => away (Option.some.inj same).symm

theorem Books.listen (books : Books of posted landed taken x) (idle : x.Idle)
    (empty : x.transport.messagesAt address = []) (ahead : x.now ≤ time) :
    let y := x.listen address time
    Books of posted landed taken y ∧ y.Listens (some address) ∧ y.Waits time ∧ y.Alone ∧
      y.agenda.line.count .host = 0 := by
  intro y
  let z := x.setMailbox address { x.mailbox address with listener := .waiting }
  have begun : y = z.sleepUntil .host time := by
    change z.sleepUntil x.listener time = _
    rw [idle.listens.host]
  have mailbox : ∀ a, z.mailbox a = if a = address then
      { x.mailbox address with listener := .waiting } else x.mailbox a :=
    fun a => Transport.mailbox_setMailbox x.transport address a _
  have messages : ∀ a, z.transport.messagesAt a = x.transport.messagesAt a := by
    intro a
    rw [messagesAt_setMailbox]
    split
    · rename_i here
      rw [here]
      rfl
    · rfl
  have undisturbed : ¬ z.Roused := by
    rintro ⟨a, roused⟩
    rw [mailbox] at roused
    split at roused
    · cases roused
    · exact absurd ((idle.listens.elsewhere a nofun).symm.trans roused) nofun
  obtain ⟨waits, alone⟩ := waits_sleepUntil (x := z) idle.alone undisturbed idle.absent time
  rw [begun]
  refine ⟨?_, ⟨idle.listens.host, fun a away => ?_, fun a listening => ?_⟩, waits, alone, ?_⟩
  · exact books.aside (books.ordered.sleepUntil .host ahead)
      (rounds_sleepUntil x.agenda time rfl) rfl rfl (Nat.le_refl _) messages
  · change (z.mailbox a).listener = .absent
    rw [mailbox, if_neg fun here => away (congrArg some here.symm)]
    exact idle.listens.elsewhere a nofun
  · change z.transport.messagesAt a = []
    change (z.mailbox a).listener = .waiting at listening
    rw [mailbox] at listening
    split at listening
    · rename_i here
      rw [messages, here]
      exact empty
    · exact absurd ((idle.listens.elsewhere a nofun).symm.trans listening) nofun
  · have absent := idle.absent
    rw [callers_eq] at absent
    change x.agenda.line.count .host = 0
    omega

end Exchange

namespace TransportSession
open Exchange
variable {x : Exchange} {of : Nat → Posted} {posted landed : List Posted}
  {taken : List (String × Incoming)}

def arrivalsInReceive (x : Exchange) (address : String) (poll : Duration) :
    List Transport.Arrival :=
  match x.tryReceive address with
  | (some _, _) => []
  | (none, x) =>
    let y := x.listen address (x.agenda.due poll)
    if poll.isZero then [] else arrivalsWithin (2 * y.transport.parcels.length + 1) y

/-- A caller receives what was first in the queue, or nothing if nothing is there. -/
theorem books_receive (books : Books of posted landed taken x) (idle : x.Idle) (address : String)
    (poll : Duration) :
    let got := receive x address poll
    (∃ landed', Books of posted landed' (taken ++ got.1.toList.map (address, ·)) got.2 ∧
      landed'.map Posted.arrival =
        landed.map Posted.arrival ++ arrivalsInReceive x address poll) ∧
    got.2.Idle ∧ got.2.transport.unavailable = x.transport.unavailable ∧
    (got.1 = none → got.2.transport.messagesAt address = []) := by
  have tried := tried_tryReceive idle address
  unfold receive arrivalsInReceive
  generalize x.tryReceive address = result at tried
  cases tried with
  | answered b absent same =>
    obtain ⟨kept, emptied⟩ := books.popped same
    exact ⟨⟨landed, kept, (List.append_nil _).symm⟩,
      idle.setMailbox address (absent_pop absent), rfl, emptied⟩
  | nothing empty =>
    let y := x.listen address (x.agenda.due poll)
    have ahead : x.now ≤ x.agenda.due poll := Nat.le_add_right _ _
    obtain ⟨begun, listens, waits, alone, inLine⟩ := books.listen idle empty ahead
    by_cases prompt : poll.isZero = true
    · have ready : x.agenda.due poll ≤ y.now := by
        change x.now + min poll.ceilMillis Agenda.longestWait ≤ x.now
        rw [Duration.ceilMillis_zero prompt, Nat.zero_min]
        exact Nat.le_refl _
      obtain ⟨found, x', heard, kept, rest, unavailable, emptied⟩ :=
        begun.heard listens alone inLine (.inr ready)
      simp only [prompt, if_true, heard]
      exact ⟨⟨landed, kept, (List.append_nil _).symm⟩, rest, unavailable, emptied⟩
    · have slow : poll.isZero = false := by simpa using prompt
      have enough := Nat.lt_succ_of_le (turnsLeft_le y.transport.parcels)
      obtain ⟨⟨landed', kept, arrived⟩, listens', woken, alone', same⟩ :=
        waited_untilHost _ begun listens waits alone enough
      obtain ⟨found, x', heard, kept', rest, unavailable, emptied⟩ :=
        kept.heard listens' alone' woken.notInLine (woken.ready listens')
      change (wait (x.listen address (x.agenda.due poll))).hear address _ = _ at heard
      simp only [slow, Bool.false_eq_true, if_false, heard]
      exact ⟨⟨landed', kept', arrived⟩, rest, unavailable.trans same, emptied⟩

end TransportSession
end Redelivery
