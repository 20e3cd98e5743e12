import Mathlib.Data.List.Nodup
import Mathlib.Logic.Function.Basic
import Redelivery.Proofs.Transport.Timers
import Redelivery.Proofs.Receiver.Turns

/-! Messages that were posted, and the parcels that carry them. A parcel's courier is to go on when
the parcel was posted, and again when it is due. -/
namespace Redelivery

/-- What somebody posts: a message to be sent, or a message given back. -/
inductive Goods where
  | fresh (m : Outgoing)
  | returned (m : Incoming)

def Goods.incoming : Goods → Incoming
  | .fresh m => m.toIncoming
  | .returned m => m

/-- The goods as they were posted; a message that was sent has its original body. -/
def Goods.Unchanged : Goods → Incoming → Prop
  | .fresh m, arrived => arrived.id = m.id ∧ arrived.headers = m.headers ∧ arrived.body = m.body ∧
      arrived.bodyWasModified = false
  | .returned m, arrived => arrived = m

structure Transport.Arrival where
  time : Nat
  address : String
  message : Incoming

structure Posted where
  time : Nat
  address : String
  goods : Goods
  delays : List Duration := []

namespace Posted

def wait (p : Posted) : Duration := .longestOf p.delays

/-- The arrival that a posted message is to have. -/
def arrival (p : Posted) : Transport.Arrival :=
  ⟨p.time + Agenda.waitMillis p.wait, p.address, p.goods.incoming⟩

theorem arrival_unchanged (p : Posted) : p.goods.Unchanged p.arrival.message := by
  unfold arrival
  cases p.goods with
  | fresh m => exact ⟨rfl, rfl, rfl, by simp [Goods.incoming, Outgoing.toIncoming,
      Incoming.received, Incoming.bodyWasModified]⟩
  | returned m => rfl

theorem arrival_prompt {p : Posted} (prompt : p.wait.isZero = true) : p.arrival.time = p.time := by
  simp [arrival, Agenda.waitMillis, Duration.ceilMillis_zero prompt]

/-- Something posted arrives unchanged where it was posted to, at once if it has no delay, and else not
before each delay has passed that a sleep can last out. -/
structure ArrivesAs (p : Posted) (a : Transport.Arrival) : Prop where
  address : a.address = p.address
  unchanged : p.goods.Unchanged a.message
  waited : ∀ d ∈ p.delays, p.time + Agenda.waitMillis d ≤ a.time
  whole : ∀ d ∈ p.delays, d.SleptOut → p.time * 1000000 + d.toNanos ≤ a.time * 1000000
  prompt : (∀ d ∈ p.delays, d.isZero = true) → a.time = p.time

theorem arrivesAs_arrival (p : Posted) : p.ArrivesAs p.arrival := by
  have waited : ∀ d ∈ p.delays, p.time + Agenda.waitMillis d ≤ p.arrival.time :=
    fun d member => Nat.add_le_add_left (Duration.waitMillis_le member) _
  refine ⟨rfl, p.arrival_unchanged, waited, fun d member slept => ?_, fun zero => ?_⟩
  · have passed := waited d member
    unfold Duration.SleptOut at slept
    omega
  · exact arrival_prompt (Duration.isZero_longestOf zero)

end Posted

structure Parcel.Carries (q : Parcel) (p : Posted) : Prop where
  address : q.address = p.address
  message : q.message = p.goods.incoming
  wait : q.wait = p.wait
  delayed : q.wait.isZero ≠ true

def Parcel.due (q : Parcel) (p : Posted) : Nat := if q.started then p.arrival.time else p.time

section parcels
variable {parcels : List Parcel} {q : Parcel}

def others (parcels : List Parcel) (number : Nat) : List Parcel :=
  parcels.filter (·.number ≠ number)

theorem perm_others (apart : (parcels.map (·.number)).Nodup) (member : q ∈ parcels) :
    parcels.Perm (q :: others parcels q.number) := perm_cons_others apart member

theorem perm_start (apart : (parcels.map (·.number)).Nodup) (member : q ∈ parcels) :
    (parcels.map fun p => if p.number = q.number then { p with started := true } else p).Perm
      ({ q with started := true } :: others parcels q.number) :=
  perm_map_at apart member fun p => { p with started := true }

end parcels

def round? : Nat × Activity → Option (Nat × Nat)
  | (time, .courier number) => some (time, number)
  | _ => none

def Parcel.round (of : Nat → Posted) (q : Parcel) : Nat × Nat := (q.due (of q.number), q.number)

namespace Exchange
variable {x : Exchange} {of : Nat → Posted}

def rounds (x : Exchange) : List (Nat × Nat) := x.agenda.appointments.filterMap round?

/-- Each parcel carries something that was posted, and has its courier's round. -/
structure Couriers (of : Nat → Posted) (parcels : List Parcel) (next : Nat)
    (rounds : List (Nat × Nat)) : Prop where
  apart : (parcels.map (·.number)).Nodup
  below : ∀ q ∈ parcels, q.number < next
  carries : ∀ q ∈ parcels, q.Carries (of q.number)
  rounds : rounds.Perm (parcels.map (Parcel.round of))

section couriers
variable {parcels : List Parcel} {next : Nat} {rounds rounds' : List (Nat × Nat)}

theorem Couriers.perm {parcels' : List Parcel} {rounds' : List (Nat × Nat)}
    (couriers : Couriers of parcels next rounds) (same : parcels'.Perm parcels)
    (rounds_same : rounds'.Perm rounds) : Couriers of parcels' next rounds' where
  apart := (same.map _).nodup_iff.2 couriers.apart
  below q member := couriers.below q (same.subset member)
  carries q member := couriers.carries q (same.subset member)
  rounds := (rounds_same.trans couriers.rounds).trans (same.map _).symm

theorem Couriers.load {q : Parcel} {p : Posted} (couriers : Couriers of parcels next rounds)
    (number : q.number = next) (carries : q.Carries p) (unstarted : q.started = false) :
    Couriers (Function.update of next p) (parcels ++ [q]) (next + 1)
      ((p.time, next) :: rounds) := by
  have old : ∀ other ∈ parcels, Function.update of next p other.number = of other.number :=
    fun other member => Function.update_of_ne (Nat.ne_of_lt (couriers.below other member)) p of
  have new : Function.update of next p q.number = p := by rw [number, Function.update_self]
  refine ⟨?_, ?_, ?_, ?_⟩
  · rw [List.map_append, List.map_singleton, number]
    refine nodup_next couriers.apart fun n member => ?_
    obtain ⟨other, known, rfl⟩ := List.mem_map.1 member
    exact couriers.below other known
  · intro other member
    rcases List.mem_append.1 member with known | known
    · exact Nat.lt_succ_of_lt (couriers.below other known)
    · rw [List.mem_singleton.1 known, number]
      exact Nat.lt_succ_self next
  · intro other member
    rcases List.mem_append.1 member with known | known
    · rw [old other known]
      exact couriers.carries other known
    · rw [List.mem_singleton.1 known, new]
      exact carries
  · have same : parcels.map (Parcel.round (Function.update of next p)) =
        parcels.map (Parcel.round of) :=
      List.map_congr_left fun other member => by rw [Parcel.round, Parcel.round, old other member]
    have own : q.round (Function.update of next p) = (p.time, next) := by
      rw [Parcel.round, new, Parcel.due, unstarted, number]
      rfl
    rw [List.map_append, same, List.map_singleton, own]
    exact (couriers.rounds.cons _).trans (List.perm_append_singleton _ _).symm

theorem Couriers.round {time number : Nat}
    (couriers : Couriers of parcels next ((time, number) :: rounds)) :
    ∃ q ∈ parcels, q.number = number ∧ q.due (of q.number) = time ∧
      Couriers of (others parcels number) next rounds := by
  have known : (time, number) ∈ parcels.map (Parcel.round of) :=
    couriers.rounds.subset List.mem_cons_self
  obtain ⟨q, member, same⟩ := List.mem_map.1 known
  cases same
  have split := perm_others couriers.apart member
  refine ⟨q, member, rfl, rfl, ⟨?_, ?_, ?_, ?_⟩⟩
  · exact couriers.apart.sublist (List.filter_sublist.map _)
  · exact fun other member => couriers.below other (List.mem_filter.1 member).1
  · exact fun other member => couriers.carries other (List.mem_filter.1 member).1
  · exact (couriers.rounds.trans (split.map _)).cons_inv

theorem Couriers.join {q : Parcel} (couriers : Couriers of parcels next rounds)
    (fresh : ∀ other ∈ parcels, other.number ≠ q.number) (below : q.number < next)
    (carries : q.Carries (of q.number)) :
    Couriers of (q :: parcels) next (q.round of :: rounds) := by
  refine ⟨?_, ?_, ?_, couriers.rounds.cons _⟩
  · refine List.nodup_cons.2 ⟨fun member => ?_, couriers.apart⟩
    obtain ⟨other, known, same⟩ := List.mem_map.1 member
    exact fresh other known same
  · exact List.forall_mem_cons.2 ⟨below, couriers.below⟩
  · exact List.forall_mem_cons.2 ⟨carries, couriers.carries⟩

theorem Couriers.start {q : Parcel} (couriers : Couriers of parcels next rounds)
    (rest : Couriers of (others parcels q.number) next rounds') (member : q ∈ parcels) :
    Couriers of (parcels.map fun p => if p.number = q.number then { p with started := true } else p)
      next (((of q.number).arrival.time, q.number) :: rounds') := by
  have carries := couriers.carries q member
  have joined := rest.join (q := { q with started := true })
    (fun other known => by simpa using (List.mem_filter.1 known).2) (couriers.below q member)
    ⟨carries.address, carries.message, carries.wait, carries.delayed⟩
  exact joined.perm (perm_start couriers.apart member) (.refl _)

end couriers

theorem rounds_wake (a : Agenda Activity) {k : Activity}
    (other : ∀ time, round? (time, k) = none) :
    ((a.wake k).appointments.filterMap round?).Perm (a.appointments.filterMap round?) := by
  by_cases inLine : k ∈ a.line
  · rw [a.wake_inLine inLine]
  · have perm := (a.appointments_wake inLine).filterMap round?
    rw [List.filterMap_cons_none (other _)] at perm
    exact perm

theorem rounds_sleepUntil (a : Agenda Activity) {k : Activity} (time : Nat)
    (other : round? (time, k) = none) :
    ((a.sleepUntil k time).appointments.filterMap round?).Perm
      (a.appointments.filterMap round?) := by
  have perm := (a.appointments_sleepUntil k time).filterMap round?
  rw [List.filterMap_cons_none other] at perm
  exact perm

theorem rounds_cancel (a : Agenda Activity) {k : Activity}
    (other : ∀ time, round? (time, k) = none) :
    (a.cancel k).appointments.filterMap round? = a.appointments.filterMap round? := by
  have same : (a.timers.filter (·.2 ≠ k)).filterMap round? = a.timers.filterMap round? := by
    rw [List.filterMap_filter]
    refine List.filterMap_congr fun timer _ => ?_
    split
    · rfl
    · rename_i dropped
      have own : timer.2 = k := by simpa using dropped
      exact (own ▸ other timer.1).symm
  change (a.line.map (a.now, ·) ++ a.timers.filter (·.2 ≠ k)).filterMap round? = _
  rw [List.filterMap_append, same, ← List.filterMap_append]
  rfl

theorem round_host (time : Nat) : round? (time, .host) = none := rfl

theorem parcels_push (x : Exchange) (address : String) (m : Incoming) :
    (x.push address m).transport.parcels = x.transport.parcels ∧
      (x.push address m).transport.next = x.transport.next := by
  unfold push
  rw [transport_after]
  exact ⟨rfl, rfl⟩

theorem agenda_push (x : Exchange) (address : String) (m : Incoming) :
    ((x.mailbox address).listener = .waiting ∧
        (x.push address m).agenda = x.agenda.wake x.listener) ∨
      ((x.mailbox address).listener ≠ .waiting ∧ (x.push address m).agenda = x.agenda) := by
  unfold push Transport.push after mailbox
  simp only [Mailbox.push]
  split
  · rename_i waits
    exact .inl ⟨waits, rfl⟩
  · rename_i waits
    exact .inr ⟨waits, rfl⟩

theorem now_push (x : Exchange) (address : String) (m : Incoming) :
    (x.push address m).now = x.now := by
  unfold now
  rcases x.agenda_push address m with ⟨_, same⟩ | ⟨_, same⟩
  · rw [same, Agenda.wake]
    split <;> rfl
  · rw [same]

theorem ordered_push (ordered : x.agenda.Ordered) (address : String) (m : Incoming) :
    (x.push address m).agenda.Ordered := by
  rcases x.agenda_push address m with ⟨_, same⟩ | ⟨_, same⟩
  · rw [same]
    exact ordered.wake _
  · rw [same]
    exact ordered

theorem rounds_push (host : x.listener = .host) (address : String) (m : Incoming) :
    (x.push address m).rounds.Perm x.rounds := by
  unfold rounds
  rcases x.agenda_push address m with ⟨_, same⟩ | ⟨_, same⟩
  · rw [same, host]
    exact rounds_wake x.agenda round_host
  · rw [same]

end Exchange
end Redelivery
