import Redelivery.Proofs.Transport.Calls
import Redelivery.Proofs.Delivery.Overlap
import Redelivery.Proofs.Processing.RetryRounds
import Redelivery.Proofs.Demo.HandlerAttempts

/-! What one processing makes of a message of the demo: the order goes through, a copy of it comes
back for another round, or it ends in the error queue. Only where the deliveries of a message are
more than 32 bits can count is it given back, with no attempt left to it. -/
namespace Redelivery

def Settings.attemptLimit (s : Settings) : Nat :=
  (s.immediateRetries.toNat + 1) * (s.retryLimit + 1)

theorem Settings.retryLimit_lt {s : Settings} (limited : s.attemptLimit ≤ Whole.max32) :
    s.retryLimit < Whole.max32 := by
  have rounds : s.retryLimit + 1 ≤ s.attemptLimit := Nat.le_mul_of_pos_left _ (Nat.succ_pos _)
  omega

theorem Settings.mul_le_attemptLimit (s : Settings) {rounds : Nat}
    (few : rounds ≤ s.retryLimit + 1) :
    rounds * (s.immediateRetries.toNat + 1) ≤ s.attemptLimit := by
  rw [attemptLimit, Nat.mul_comm rounds]
  exact Nat.mul_le_mul_left _ few

theorem Settings.immediateRetries_of_active {s : Settings}
    (limited : s.attemptLimit ≤ Whole.max32) (active : s.delayed.isActive = true) :
    s.immediateRetries.toNat + 3 ≤ Whole.max32 := by
  have granted : s.delayed.retries ≠ 0 := by
    simp only [DelayedRetries.isActive, Bool.and_eq_true, bne_iff_ne] at active
    exact active.2
  have rounds : 1 ≤ s.retryLimit := by
    rw [retryLimit, if_pos active]
    exact Nat.pos_of_ne_zero fun none => granted (UInt32.toNat_inj.1 none)
  have twice : (s.immediateRetries.toNat + 1) * 2 ≤ s.attemptLimit :=
    Nat.mul_le_mul_left _ (Nat.succ_le_succ rounds)
  have most : Whole.max32 = 4294967295 := rfl
  omega

theorem accepted_dispatch (x : Exchange) (open' : x.transport.unavailable = []) (op : Operation) :
    (x.dispatch op).1.failure = none := by
  have available : x.transport.isAvailable op.destination = true := by
    simp [Transport.isAvailable, open']
  by_cases prompt : op.wait.isZero = true
  · exact (x.dispatch_prompt available prompt).1
  · exact (x.dispatch_delayed available prompt).1

namespace ReceivePipeline
variable {s : Settings} {given : Option DelayPolicy} {own : List Stage} {p : ReceivePipeline}

theorem only_processWithin (about : ∀ m, (p.invoke m).only (Request.about m.id)) (m : Incoming)
    (allowed earlier : Nat) : (p.processWithin m allowed earlier).only (Request.about m.id) := by
  induction allowed generalizing earlier with
  | zero => exact trivial
  | succ allowed ih =>
    refine Flow.only_bind (about m) fun delivery => ?_
    cases delivery with
    | completed => exact trivial
    | failed failure => exact trivial
    | aborted => exact ⟨Request.about_of_none rfl, fun _ => ih (earlier + 1)⟩

theorem lookup_process_other {σ : Type} {o : Outside σ} {handlers : List (Nat × String)}
    (built : build s given (handlerStages handlers) = .ok p) (m : Incoming) (w : World σ)
    {other : String} (different : other ≠ m.id) :
    ((p.process m).course o w).world.table.lookup other = w.table.lookup other ∨
      ((p.process m).course o w).world.table.lookup other = none := by
  have about := only_processWithin
    (fun m => (echoes_invoke built (handlerStages_stayWithMessage handlers) m).about) m
    Whole.max32 0
  rw [Flow.table_course]
  refine w.table.lookup_changed_other other fun change member same => different ?_
  rw [← same]
  exact Flow.changes_of_only o w (fun r change about => about change) about change member

end ReceivePipeline

namespace Demo

section round
variable (clock : Clock) {s : Settings} {p : ReceivePipeline} {m : Incoming}
  {w₀ w w' : World (Exchange × Office)} {failures tries : Nat}

structure Underway (m : Incoming) (w₀ w : World (Exchange × Office)) (tries : Nat) : Prop where
  exchange : w.outside.1 = w₀.outside.1
  office : Office.Advanced m.id tries 0 0 w₀.outside.2 w.outside.2
  attempts : w.table.attempts m.id = tries
  plain : w.table.pendingForward m.id = none ∧ w.table.pendingDelay m.id = none

theorem underway_start (unrecorded : w.table.lookup m.id = none) : Underway m w w 0 where
  exchange := rfl
  office := .refl _ _
  attempts := by simp [FailureTable.attempts, unrecorded]
  plain := by simp [FailureTable.pendingForward, FailureTable.pendingDelay, unrecorded]

theorem attempt_fails (read : Order.failuresIn m.body = some failures)
    (early : w.outside.2.room.tried m.id < failures) (counted : failures ≤ Whole.max32) :
    ∃ failure st' ds,
      (outside clock).handleAll handlers m w.outside = ⟨m, .failed failure, st', ds⟩ ∧
      failure.isRetryable = true ∧ st'.1 = w.outside.1 ∧
      Office.Advanced m.id 1 0 0 w.outside.2 st'.2 := by
  obtain ⟨r, handled, ways⟩ := exists_attempt clock m w.outside
  cases ways with
  | unavailable _ _ _ retryable exchange office =>
    exact ⟨_, _, _, handled, retryable, exchange, office⟩
  | reserved read' _ enough _ _ =>
    cases read.symm.trans read'
    omega
  | uncounted read' full => omega
  | unreadable broken => cases read.symm.trans broken

theorem attempt_reserves (read : Order.failuresIn m.body = some failures)
    (late : failures ≤ w.outside.2.room.tried m.id)
    (counted : w.outside.2.room.tried m.id < Whole.max32) :
    ∃ st' ds, (outside clock).handleAll handlers m w.outside = ⟨m, .done, st', ds⟩ ∧
      st'.1 = w.outside.1 ∧ Office.Advanced m.id 1 1 0 w.outside.2 st'.2 := by
  obtain ⟨r, handled, ways⟩ := exists_attempt clock m w.outside
  cases ways with
  | reserved _ _ _ exchange office => exact ⟨_, _, handled, exchange, office⟩
  | unavailable read' _ early _ _ _ =>
    cases read.symm.trans read'
    omega
  | uncounted read' full => omega
  | unreadable broken => cases read.symm.trans broken

/-- A failed attempt that is not the last of its round is followed by another delivery. -/
theorem underway_again (built : ReceivePipeline.build s none (handlerStages handlers) = .ok p)
    (read : Order.failuresIn m.body = some failures) (counted : failures ≤ Whole.max32)
    (underway : Underway m w₀ w tries) (left : tries < s.immediateRetries.toNat)
    (early : w₀.outside.2.room.tried m.id + tries < failures) (allowed earlier : Nat) :
    ∃ w' ds, (p.processWithin m (allowed + 1) earlier).course (outside clock) w =
        ((p.processWithin m allowed (earlier + 1)).course (outside clock) w').after ds ∧
      Underway m w₀ w' (tries + 1) := by
  have sofar := underway.office.tried
  obtain ⟨failure, st', ds, handled, retryable, exchange, office⟩ :=
    attempt_fails (w := w) clock read (by omega) counted
  have more : w.table.attempts (p.entry m).message.id < s.immediateRetries.toNat := by
    rw [show (p.entry m).message.id = m.id from rfl, underway.attempts]
    exact left
  have attempt : Tries (outside clock) handlers s.immediateRetries.toNat (p.entry m) w _ _ _ :=
    .absorbed handled rfl retryable more rfl
  obtain ⟨ds', course, -⟩ :=
    ReceivePipeline.delivers_of_tries built (fun _ => underway.plain) attempt rfl
  rw [Passage.delivery_aborted rfl rfl] at course
  refine ⟨_, ds', ReceivePipeline.course_processWithin_aborted allowed earlier course, ?_⟩
  exact {
    exchange := exchange.trans underway.exchange
    office := underway.office.trans office
    attempts := by
      rw [← underway.attempts]
      exact FailureTable.attempts_record_self w.table m.id failure false false
    plain := ⟨FailureTable.pendingForward_record_self w.table m.id failure false false,
      FailureTable.pendingDelay_record_self w.table m.id failure false false⟩ }

theorem underway_run (built : ReceivePipeline.build s none (handlerStages handlers) = .ok p)
    (read : Order.failuresIn m.body = some failures) (counted : failures ≤ Whole.max32)
    (underway : Underway m w₀ w tries) (more : Nat)
    (left : tries + more ≤ s.immediateRetries.toNat)
    (early : w₀.outside.2.room.tried m.id + (tries + more) ≤ failures) (allowed earlier : Nat) :
    ∃ w' ds, (p.processWithin m (allowed + more) earlier).course (outside clock) w =
        ((p.processWithin m allowed (earlier + more)).course (outside clock) w').after ds ∧
      Underway m w₀ w' (tries + more) := by
  -- On the attempts to come: what is left under way is the same processing, one attempt further.
  induction more generalizing w tries earlier with
  | zero => exact ⟨w, [], rfl, underway⟩
  | succ more ih =>
    obtain ⟨w', ds, first, onward⟩ := underway_again clock built read counted underway
      (by omega) (by omega) (allowed + more) earlier
    obtain ⟨w'', ds', rest, last⟩ := ih onward (by omega) (by omega) (earlier + 1)
    refine ⟨w'', ds ++ ds', ?_, ?_⟩
    · rw [show allowed + (more + 1) = allowed + more + 1 from rfl, first, rest,
        show earlier + 1 + more = earlier + (more + 1) by omega, Course.after_after]
    · rwa [show tries + (more + 1) = tries + 1 + more by omega]

theorem fulfils_decision {passage : Passage} {failure : Failure} {ds : List Deed}
    (built : ReceivePipeline.build s none (handlerStages handlers) = .ok p)
    (plain : w.table.pendingForward m.id = none ∧ w.table.pendingDelay m.id = none)
    (tries : Tries (outside clock) handlers s.immediateRetries.toNat (p.entry m) w passage w' ds)
    (failed : passage.failure = some failure) (allowed earlier : Nat) (one : 1 ≤ allowed)
    (two : ReceivePipeline.modeOf s = .onNextDelivery → 2 ≤ allowed)
    (three : s.delayed.isActive = true → 3 ≤ allowed) :
    Fulfils ((p.processWithin m allowed earlier).course (outside clock) w)
      (((outside clock).decided s none failure
        ((ReceivePipeline.modeOf s).shown m passage.context.message) w'.outside).after ds)
      m.id := by
  cases mode : ReceivePipeline.modeOf s with
  | atOnce =>
    obtain ⟨allowed, rfl⟩ := Nat.exists_eq_add_of_le' one
    exact ReceivePipeline.fulfils_decided_now allowed earlier built mode tries failed
  | onNextDelivery =>
    cases active : s.delayed.isActive with
    | true =>
      obtain ⟨allowed, rfl⟩ := Nat.exists_eq_add_of_le' (three active)
      exact ReceivePipeline.fulfils_decided_later allowed earlier built mode plain.1 plain.2 tries
        failed
    | false =>
      obtain ⟨allowed, rfl⟩ := Nat.exists_eq_add_of_le' (two mode)
      have chosen : ReceivePipeline.policyOf s none = none := by
        simp [ReceivePipeline.policyOf, active]
      simp only [Outside.decided, chosen]
      exact ReceivePipeline.fulfils_postponed allowed earlier built mode plain.1 chosen
        (.absent tries) failed (by simp [attemptDeeds, Deed.isAct])

structure IsFault (s : Settings) (m : Incoming) (plan : Option Nat) (op : Operation) : Prop where
  forward : op.IsForwardOf s m
  stamped : plan = none → op.message.headers.get? Headers.exceptionType =
    some "recoverability::MessageDeserializationError"

theorem forward_counted {st : Exchange × Office} {shown : Incoming} {plan : Option Nat}
    {failure : Failure} (free : st.1.transport.unavailable = []) (alike : m.Alike [] shown)
    (kind : plan = none → failure.exceptionType = "recoverability::MessageDeserializationError") :
    ∃ op, IsFault s m plan op ∧ ((outside clock).forward s failure shown st).ended = .done none ∧
      ((outside clock).forward s failure shown st).outside =
        ((st.1.dispatch op).2, { st.2 with faulted := st.2.faulted + 1 }) := by
  let op := faultedOperation s.errorQueue s.address shown failure (clock.reading st.2)
  have accepted : ((outside clock).dispatch op st).1.failure = none :=
    accepted_dispatch st.1 free op
  have stamped : op.message.headers.get? Headers.exceptionType = some failure.exceptionType := by
    have header := Incoming.get?_faulted shown failure s.address (clock.reading st.2)
      Headers.exceptionType
    rw [if_neg (by decide)] at header
    refine header.trans ?_
    unfold Failure.stamps
    cases failure.stage? <;> rfl
  refine ⟨op, ⟨⟨rfl, alike.id.symm, alike.originalBody.symm, rfl⟩, fun broken => ?_⟩, ?_⟩
  · rw [stamped, kind broken]
  · have time : (outside clock).now st = clock.reading st.2 := rfl
    simp only [Outside.forward, time]
    rw [accepted]
    exact ⟨rfl, rfl⟩

theorem retry_uncounted {st : Exchange × Office} {shown : Incoming} {failure : Failure}
    (free : st.1.transport.unavailable = []) (alike : m.Alike [] shown)
    (retryable : failure.isRetryable = true) (granted : m.headers.retryCount < s.retryLimit)
    (limited : s.retryLimit < Whole.max32) :
    ∃ op, op.IsRetry s m (m.headers.retryCount + 1) ∧
      ((outside clock).decided s none failure shown st).ended = .done none ∧
      ((outside clock).decided s none failure shown st).outside =
        ((st.1.dispatch op).2, st.2) := by
  obtain ⟨op, asked, question, delay, notice, retry, other, becomes⟩ :=
    decided_granted (outside clock) alike retryable granted limited st
  rw [becomes (accepted_dispatch st.1 free op)]
  refine ⟨op, retry, rfl, ?_⟩
  have unnoticed : (host clock).notified notice st.2 = st.2 := if_neg other
  change ((st.1.dispatch op).2, (host clock).notified notice st.2) = _
  rw [unnoticed]

/-- What lies before a message of which so much is planned: it cannot be read, or some of its
rounds are over and each of their attempts failed, or it has used up all attempts that can be
counted and its forward was only recorded, or even forgotten. -/
inductive Prospect (s : Settings) (t : FailureTable) (room : StockRoom) (m : Incoming) :
    Option Nat → Prop where
  | unreadable (unrecorded : t.lookup m.id = none) : Prospect s t room m none
  | ready {failures : Nat} (unrecorded : t.lookup m.id = none)
      (rounds : m.headers.retryCount ≤ s.retryLimit)
      (tried : room.tried m.id = m.headers.retryCount * (s.immediateRetries.toNat + 1))
      (early : room.tried m.id ≤ failures) : Prospect s t room m (some failures)
  | worn {failures : Nat} (later : ReceivePipeline.modeOf s = .onNextDelivery)
      (full : room.tried m.id = Whole.max32) (lost : s.attemptLimit ≤ failures)
      (known : t.lookup m.id = none ∨ ∃ failure, t.pendingForward m.id = some failure) :
      Prospect s t room m (some failures)

inductive Way (s : Settings) (m : Incoming) (plan : Option Nat)
    (w w' : World (Exchange × Office)) : Ended Processed → Prop where
  | reserved {failures tries deliveries : Nat} (planned : plan = some failures)
      (few : failures < s.attemptLimit) (exchange : w'.outside.1 = w.outside.1)
      (office : Office.Advanced m.id tries 1 0 w.outside.2 w'.outside.2) :
      Way s m plan w w' (.done (.settled deliveries))
  | deferred {op : Operation} {tries deliveries : Nat}
      (retry : op.IsRetry s m (m.headers.retryCount + 1))
      (exchange : w'.outside.1 = (w.outside.1.dispatch op).2)
      (office : Office.Advanced m.id tries 0 0 w.outside.2 w'.outside.2)
      (prospect : Prospect s w'.table w'.outside.2.room op.message.toIncoming plan) :
      Way s m plan w w' (.done (.settled deliveries))
  | faulted {op : Operation} {tries deliveries : Nat}
      (lost : ∀ failures, plan = some failures → s.attemptLimit ≤ failures)
      (fault : IsFault s m plan op) (exchange : w'.outside.1 = (w.outside.1.dispatch op).2)
      (office : Office.Advanced m.id tries 0 1 w.outside.2 w'.outside.2) :
      Way s m plan w w' (.done (.settled deliveries))
  | returned {text : String} {tries : Nat} (exchange : w'.outside.1 = w.outside.1)
      (office : Office.Advanced m.id tries 0 0 w.outside.2 w'.outside.2)
      (prospect : Prospect s w'.table w'.outside.2.room m plan) :
      Way s m plan w w' (.panicked text)

section ways
variable {plan : Option Nat} {failure : Failure} {shown : Incoming} {st : Exchange × Office}
  {run : Course (Exchange × Office) Processed} {ds : List Deed}

theorem alike_shown (mode : DecisionMode) (attempts : Nat) :
    m.Alike [] (mode.shown m (m.retriedAtOnce attempts)) := by
  cases mode with
  | onNextDelivery => exact ⟨rfl, rfl, fun _ _ _ => rfl, fun _ member => by cases member⟩
  | atOnce =>
    refine ⟨rfl, rfl, fun key different _ => ?_, fun _ member => by cases member⟩
    simp [DecisionMode.shown, Incoming.retriedAtOnce, Incoming.setHeader, different]

theorem way_of_forward (free : st.1.transport.unavailable = []) (alike : m.Alike [] shown)
    (fulfils : Fulfils run (((outside clock).forward s failure shown st).after ds) m.id)
    (kind : plan = none → failure.exceptionType = "recoverability::MessageDeserializationError")
    (lost : ∀ failures, plan = some failures → s.attemptLimit ≤ failures)
    (exchange : st.1 = w.outside.1) (office : Office.Advanced m.id tries 0 0 w.outside.2 st.2) :
    Way s m plan w run.world run.ended := by
  obtain ⟨op, fault, fine, left⟩ := forward_counted clock free alike kind
  obtain ⟨deliveries, settled⟩ := settled_of_fine (fulfils.ended.trans fine)
  have world : run.world.outside =
      ((st.1.dispatch op).2, { st.2 with faulted := st.2.faulted + 1 }) := fulfils.outside.trans left
  have counted : Office.Advanced m.id tries 0 1 w.outside.2 run.world.outside.2 := by
    rw [world]
    exact { office with faulted := congrArg (· + 1) office.faulted }
  rw [settled]
  exact .faulted lost fault (by rw [world, exchange]) counted

theorem way_of_denied (limited : s.attemptLimit ≤ Whole.max32)
    (free : st.1.transport.unavailable = []) (alike : m.Alike [] shown)
    (spent : failure.isRetryable = true → s.retryLimit ≤ m.headers.retryCount)
    (fulfils : Fulfils run (((outside clock).decided s none failure shown st).after ds) m.id)
    (kind : plan = none → failure.exceptionType = "recoverability::MessageDeserializationError")
    (lost : ∀ failures, plan = some failures → s.attemptLimit ≤ failures)
    (exchange : st.1 = w.outside.1) (office : Office.Advanced m.id tries 0 0 w.outside.2 st.2) :
    Way s m plan w run.world run.ended := by
  obtain ⟨ds', -, -, -, denied⟩ := decided_denied (outside clock) alike failure spent
    (Settings.retryLimit_lt limited) st
  have forwarded : Fulfils run (((outside clock).forward s failure shown st).after (ds ++ ds'))
      m.id := by
    simpa [denied, Fate.after, List.append_assoc] using fulfils
  exact way_of_forward clock free alike forwarded kind lost exchange office

theorem way_of_decision {failures : Nat} (limited : s.attemptLimit ≤ Whole.max32)
    (free : st.1.transport.unavailable = []) (alike : m.Alike [] shown)
    (retryable : failure.isRetryable = true)
    (fulfils : Fulfils run (((outside clock).decided s none failure shown st).after ds) m.id)
    (rounds : m.headers.retryCount ≤ s.retryLimit) (exchange : st.1 = w.outside.1)
    (office : Office.Advanced m.id tries 0 0 w.outside.2 st.2)
    (tried : st.2.room.tried m.id =
      (m.headers.retryCount + 1) * (s.immediateRetries.toNat + 1))
    (early : st.2.room.tried m.id ≤ failures) :
    Way s m (some failures) w run.world run.ended := by
  have retries := Settings.retryLimit_lt limited
  by_cases granted : m.headers.retryCount < s.retryLimit
  · obtain ⟨op, retry, fine, left⟩ := retry_uncounted clock free alike retryable granted retries
    obtain ⟨deliveries, settled⟩ := settled_of_fine (fulfils.ended.trans fine)
    have world : run.world.outside = ((st.1.dispatch op).2, st.2) := fulfils.outside.trans left
    have prospect : Prospect s run.world.table run.world.outside.2.room op.message.toIncoming
        (some failures) := by
      have same : op.message.toIncoming.id = m.id := retry.id
      have number : op.message.toIncoming.headers.retryCount = m.headers.retryCount + 1 :=
        retry.read
      rw [world]
      refine .ready ?_ (by rw [number]; exact granted) (by rw [same, number, tried])
        (by rw [same]; exact early)
      rw [same]
      exact fulfils.forgotten fine
    have kept : Office.Advanced m.id tries 0 0 w.outside.2 run.world.outside.2 := by
      rw [world]
      exact office
    rw [settled]
    exact .deferred retry (by rw [world, exchange]) kept prospect
  · have all : s.attemptLimit = (m.headers.retryCount + 1) * (s.immediateRetries.toNat + 1) := by
      rw [Settings.attemptLimit, Nat.mul_comm, Nat.le_antisymm rounds (Nat.le_of_not_lt granted)]
    have lost : ∀ planned, some failures = some planned → s.attemptLimit ≤ planned := by
      rintro _ ⟨⟩
      rw [all, ← tried]
      exact early
    exact way_of_denied clock limited free alike (fun _ => Nat.le_of_not_lt granted) fulfils
      (fun h => by cases h) lost exchange office

def GoesWay (clock : Clock) (s : Settings) (p : ReceivePipeline) (m : Incoming)
    (plan : Option Nat) (w : World (Exchange × Office)) : Prop :=
  Way s m plan w ((p.process m).course (outside clock) w).world
    ((p.process m).course (outside clock) w).ended

theorem way_unreadable (built : ReceivePipeline.build s none (handlerStages handlers) = .ok p)
    (limited : s.attemptLimit ≤ Whole.max32) (free : w.outside.1.transport.unavailable = [])
    (read : Order.failuresIn m.body = none) (unrecorded : w.table.lookup m.id = none) :
    GoesWay clock s p m none w := by
  obtain ⟨r, handled, ways⟩ := exists_attempt clock m w.outside
  cases ways with
  | reserved read' _ _ _ _ => cases read.symm.trans read'
  | unavailable read' _ _ _ _ _ => cases read.symm.trans read'
  | uncounted read' _ => cases read.symm.trans read'
  | @unreadable reason ds _ =>
    have tries : Tries (outside clock) handlers s.immediateRetries.toNat (p.entry m) w _ _ _ :=
      .unreadable handled rfl rfl
    have fulfils := fulfils_decision clock built (underway_start unrecorded).plain tries rfl
      Whole.max32 0 (by decide) (fun _ => by decide) (fun _ => by decide)
    have alike : m.Alike [] ((ReceivePipeline.modeOf s).shown m m) := by
      cases ReceivePipeline.modeOf s <;>
        exact ⟨rfl, rfl, fun _ _ _ => rfl, fun _ member => by cases member⟩
    exact way_of_denied clock limited free alike (fun h => by cases h) fulfils (fun _ => rfl)
      (fun _ h => by cases h) rfl (.refl _ _)

theorem way_worn {failures : Nat}
    (built : ReceivePipeline.build s none (handlerStages handlers) = .ok p)
    (free : w.outside.1.transport.unavailable = [])
    (read : Order.failuresIn m.body = some failures)
    (later : ReceivePipeline.modeOf s = .onNextDelivery)
    (full : w.outside.2.room.tried m.id = Whole.max32) (lost : s.attemptLimit ≤ failures)
    (known : w.table.lookup m.id = none ∨ ∃ failure, w.table.pendingForward m.id = some failure) :
    GoesWay clock s p m (some failures) w := by
  rcases known with unrecorded | ⟨failure, pending⟩
  · obtain ⟨r, handled, ways⟩ := exists_attempt clock m w.outside
    cases ways with
    | reserved _ counted _ _ _ => omega
    | unavailable _ counted _ _ _ _ => omega
    | unreadable broken => cases read.symm.trans broken
    | @uncounted _ text ds _ _ =>
      have plain := (underway_start unrecorded).plain
      obtain ⟨ds', way, -⟩ := course_allStages_panicked (c := p.entry m)
        (fun _ => ⟨plain.1, .inr plain.2⟩) handled rfl s.errorQueue s.immediateRetries.toNat
      rw [← ReceivePipeline.stages_of_handlers built] at way
      have course : (p.process m).course (outside clock) w = _ :=
        ReceivePipeline.course_processWithin_panicked (Whole.max32 - 1) 0
          (ReceivePipeline.course_invoke_panicked way)
      rw [GoesWay, course]
      exact .returned rfl (.refl _ _) (.worn later full lost (.inl unrecorded))
  · have fulfils : Fulfils ((p.process m).course (outside clock) w)
        (((outside clock).forward s failure m w.outside).after []) m.id :=
      ReceivePipeline.fulfils_forward (Whole.max32 - 1) 0 built later pending
    have alike : m.Alike [] m := ⟨rfl, rfl, fun _ _ _ => rfl, fun _ member => by cases member⟩
    have all : ∀ planned, some failures = some planned → s.attemptLimit ≤ planned := by
      rintro _ ⟨⟩
      exact lost
    exact way_of_forward clock free alike fulfils (fun h => by cases h) all rfl (.refl _ _)

theorem way_reserving {failures : Nat}
    (built : ReceivePipeline.build s none (handlerStages handlers) = .ok p)
    (limited : s.attemptLimit ≤ Whole.max32) (read : Order.failuresIn m.body = some failures)
    (unrecorded : w.table.lookup m.id = none) (rounds : m.headers.retryCount ≤ s.retryLimit)
    (tried : w.outside.2.room.tried m.id =
      m.headers.retryCount * (s.immediateRetries.toNat + 1))
    (early : w.outside.2.room.tried m.id ≤ failures)
    (enough : failures < (m.headers.retryCount + 1) * (s.immediateRetries.toNat + 1)) :
    GoesWay clock s p m (some failures) w := by
  have within : (m.headers.retryCount + 1) * (s.immediateRetries.toNat + 1) ≤ s.attemptLimit :=
    s.mul_le_attemptLimit (Nat.succ_le_succ rounds)
  have few : failures < s.attemptLimit := Nat.lt_of_lt_of_le enough within
  have counted : failures < Whole.max32 := Nat.lt_of_lt_of_le few limited
  rw [Nat.succ_mul, ← tried] at enough
  have one : s.immediateRetries.toNat + 1 ≤ s.attemptLimit :=
    Nat.le_mul_of_pos_right _ (Nat.succ_pos _)
  obtain ⟨more, gap⟩ := Nat.exists_eq_add_of_le early
  obtain ⟨w', ds, absorbed, underway⟩ := underway_run clock built read (by omega)
    (underway_start unrecorded) more (by omega) (by omega) (Whole.max32 - more - 1 + 1) 0
  have all := underway.office.tried
  obtain ⟨st', ds', handled, exchange, office⟩ :=
    attempt_reserves (w := w') clock read (by omega) (by omega)
  have tries : Tries (outside clock) handlers s.immediateRetries.toNat (p.entry m) w' _ _ _ :=
    .succeeded handled rfl
  obtain ⟨ds'', course, -⟩ :=
    ReceivePipeline.delivers_of_tries built (fun _ => underway.plain) tries rfl
  rw [Passage.delivery_completed rfl rfl] at course
  rw [ReceivePipeline.course_processWithin_completed _ _ course] at absorbed
  rw [show Whole.max32 - more - 1 + 1 + more = Whole.max32 by omega] at absorbed
  rw [GoesWay, ReceivePipeline.process, absorbed]
  exact .reserved rfl few (exchange.trans underway.exchange) (underway.office.trans office)

/-- Where decisions wait for the next delivery, one delivery is too few for a forward: it is only
recorded, and the message given back. -/
theorem postponed_last {passage : Passage}
    (built : ReceivePipeline.build s none (handlerStages handlers) = .ok p)
    (later : ReceivePipeline.modeOf s = .onNextDelivery) (inactive : s.delayed.isActive = false)
    (plain : w.table.pendingForward m.id = none ∧ w.table.pendingDelay m.id = none)
    (tries : Tries (outside clock) handlers s.immediateRetries.toNat (p.entry m) w passage w' ds)
    (failed : passage.failure = some failure) (earlier : Nat) :
    ∃ text ds' w'', (p.processWithin m 1 earlier).course (outside clock) w =
        ⟨.panicked text, w'', ds'⟩ ∧
      w''.outside = w'.outside ∧ w''.table.pendingForward m.id = some failure := by
  have chosen : ReceivePipeline.policyOf s none = none := by
    simp [ReceivePipeline.policyOf, inactive]
  have delays : Delays (outside clock) handlers s.immediateRetries.toNat
      (ReceivePipeline.modeOf s) (p.entry m) w none passage w' _ := .absent tries
  rw [← chosen] at delays
  have course := ReceivePipeline.course_invoke_of_delivers built
    (.postponed later plain.1 delays failed)
  rw [Passage.delivery_aborted rfl rfl] at course
  refine ⟨_, _, _, ReceivePipeline.course_processWithin_aborted 0 earlier course, rfl, ?_⟩
  exact FailureTable.pendingForward_record_self w'.table m.id failure true false

theorem way_failing {failures : Nat}
    (built : ReceivePipeline.build s none (handlerStages handlers) = .ok p)
    (limited : s.attemptLimit ≤ Whole.max32) (free : w.outside.1.transport.unavailable = [])
    (read : Order.failuresIn m.body = some failures) (counted : failures ≤ Whole.max32)
    (unrecorded : w.table.lookup m.id = none) (rounds : m.headers.retryCount ≤ s.retryLimit)
    (tried : w.outside.2.room.tried m.id =
      m.headers.retryCount * (s.immediateRetries.toNat + 1))
    (short : (m.headers.retryCount + 1) * (s.immediateRetries.toNat + 1) ≤ failures) :
    GoesWay clock s p m (some failures) w := by
  have round := short
  rw [Nat.succ_mul, ← tried] at round
  have one : s.immediateRetries.toNat + 1 ≤ s.attemptLimit :=
    Nat.le_mul_of_pos_right _ (Nat.succ_pos _)
  obtain ⟨w', ds, absorbed, underway⟩ := underway_run clock built read counted
    (underway_start unrecorded) s.immediateRetries.toNat (by omega) (by omega)
    (Whole.max32 - s.immediateRetries.toNat) 0
  rw [show Whole.max32 - s.immediateRetries.toNat + s.immediateRetries.toNat = Whole.max32 by omega]
    at absorbed
  have sofar := underway.office.tried
  obtain ⟨failure, st', ds', handled, retryable, exchange, office⟩ :=
    attempt_fails (w := w') clock read (by omega) counted
  have spent : s.immediateRetries.toNat ≤ w'.table.attempts (p.entry m).message.id := by
    have attempts : w'.table.attempts (p.entry m).message.id = _ := underway.attempts
    omega
  have tries : Tries (outside clock) handlers s.immediateRetries.toNat (p.entry m) w' _ _ _ :=
    .usedUp handled rfl retryable spent
  have whole := underway.office.trans office
  have left := whole.tried
  have same := exchange.trans underway.exchange
  by_cases fits : (ReceivePipeline.modeOf s = .onNextDelivery →
      2 ≤ Whole.max32 - s.immediateRetries.toNat) ∧
      (s.delayed.isActive = true → 3 ≤ Whole.max32 - s.immediateRetries.toNat)
  · have fulfils := fulfils_decision clock built underway.plain tries rfl
      (Whole.max32 - s.immediateRetries.toNat) (0 + s.immediateRetries.toNat) (by omega) fits.1
      fits.2
    have way : Way s m (some failures) w _ _ :=
      way_of_decision clock limited (same ▸ free) (alike_shown _ _) retryable fulfils rounds same
        whole (by rw [left, tried, Nat.succ_mul]; omega) (by rw [left]; omega)
    rw [GoesWay, ReceivePipeline.process, absorbed]
    exact way
  · -- Only one delivery was left, and the failure of its attempt waits for another one.
    have inactive : s.delayed.isActive = false := by
      by_contra active
      have few := Settings.immediateRetries_of_active limited (by simpa using active)
      exact fits ⟨fun _ => by omega, fun _ => by omega⟩
    have later : ReceivePipeline.modeOf s = .onNextDelivery := by
      by_contra now
      exact fits ⟨fun later => absurd later now, fun active => by simp [inactive] at active⟩
    have last : Whole.max32 - s.immediateRetries.toNat = 1 := by
      by_contra more
      exact fits ⟨fun _ => by omega, fun active => by simp [inactive] at active⟩
    obtain ⟨text, ds'', w'', course, outside, pending⟩ := postponed_last clock built later inactive
      underway.plain tries rfl (0 + s.immediateRetries.toNat)
    have kept : Office.Advanced m.id (0 + s.immediateRetries.toNat + 1) 0 0 w.outside.2
        w''.outside.2 := by
      rw [outside]
      exact whole
    have unsent : w''.outside.1 = w.outside.1 := by
      rw [outside]
      exact same
    have prospect : Prospect s w''.table w''.outside.2.room m (some failures) := by
      refine .worn later ?_ (by omega) (.inr ⟨failure, pending⟩)
      rw [outside, left]
      omega
    rw [last, course] at absorbed
    rw [GoesWay, ReceivePipeline.process, absorbed]
    exact .returned unsent kept prospect

/-- A message with a prospect goes one of its ways, and what comes back of it has a prospect. -/
theorem process_goesWay {plan : Option Nat}
    (built : ReceivePipeline.build s none (handlerStages handlers) = .ok p)
    (limited : s.attemptLimit ≤ Whole.max32) (free : w.outside.1.transport.unavailable = [])
    (read : Order.failuresIn m.body = plan) (counted : ∀ failures ∈ plan, failures ≤ Whole.max32)
    (prospect : Prospect s w.table w.outside.2.room m plan) : GoesWay clock s p m plan w := by
  cases prospect with
  | unreadable unrecorded => exact way_unreadable clock built limited free read unrecorded
  | worn later full lost known => exact way_worn clock built free read later full lost known
  | @ready failures unrecorded rounds tried early =>
    by_cases enough : failures < (m.headers.retryCount + 1) * (s.immediateRetries.toNat + 1)
    · exact way_reserving clock built limited read unrecorded rounds tried early enough
    · exact way_failing clock built limited free read (counted failures rfl) unrecorded rounds
        tried (Nat.le_of_not_lt enough)

end ways

end round
end Demo
end Redelivery
