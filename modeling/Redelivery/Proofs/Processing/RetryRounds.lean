import Redelivery.Proofs.Delivery.Outcome
import Redelivery.Proofs.Processing.ModeAgreement
import Redelivery.Proofs.Text.Decimal
import Redelivery.Proofs.Time.LinearDelays

/-! How often a message is handled in all. A message whose handler fails a number of times goes
through rounds of attempts; each round but the last ends with a copy that comes back, and the
copies count the rounds in a header. The rounds end with a success or, when the policy grants no
further retry, in the error queue. -/
namespace Redelivery

/-- A handler that fails in its first calls for a message, as they are counted in the state of the
surroundings, and a dispatcher that never fails. -/
structure Outside.Flaky {σ : Type} (o : Outside σ) (slot : Nat) (name id : String)
    (calls : σ → Nat) (failures : Nat) : Prop where
  counted : ∀ m st, m.id = id → calls (o.handle slot m st).2 = calls st + 1
  fails : ∀ m st, m.id = id → calls st < failures →
    ∃ failure, (o.handle slot m st).1.outcome = .failed failure ∧ failure.isRetryable = true
  succeeds : ∀ m st, m.id = id → failures ≤ calls st → (o.handle slot m st).1.outcome = .done
  keepsHeaders : o.KeepsHeaders [(slot, name)]
  accepts : ∀ op st, (o.dispatch op st).1.failure = none
  dispatched : ∀ op st, calls (o.dispatch op st).2 = calls st
  notified : ∀ n st, calls (o.notified n st) = calls st

def Settings.retryLimit (s : Settings) : Nat :=
  if s.delayed.isActive then s.delayed.retries.toNat else 0

/-- The copy for the delayed retry with a number: as received, with the number in its header and a
delay of as many increases, the longest duration at most. -/
structure Operation.IsRetry (op : Operation) (s : Settings) (m : Incoming) (number : Nat) : Prop where
  destination : op.destination = s.address
  id : op.message.id = m.id
  body : op.message.body = m.originalBody
  written : op.message.headers.get? Headers.retries = some (Whole.text number)
  read : op.message.headers.retryCount = number
  delay : ∃ delay, op.delays = [delay] ∧
    delay.toNanos = min (number * s.delayed.increase.toNanos) Duration.longest.toNanos

structure Operation.IsForwardOf (op : Operation) (s : Settings) (m : Incoming) : Prop where
  destination : op.destination = s.errorQueue
  id : op.message.id = m.id
  body : op.message.body = m.originalBody
  delays : op.delays = []

def copiesIn (ds : List Deed) : List Operation := (tally ds).sent.filter fun op => !op.delays.isEmpty

/-- The processing of a message and, one after another, of the copies of it that come back. -/
inductive Trips {σ : Type} (o : Outside σ) (p : ReceivePipeline) (allowed : Nat) :
    Incoming → World σ → World σ → List Deed → Prop where
  | last {m w w' ds deliveries}
      (run : (p.processWithin m allowed 0).course o w = ⟨.done (.settled deliveries), w', ds⟩)
      (none : copiesIn ds = []) : Trips o p allowed m w w' ds
  | again {m w w' w'' ds ds' op deliveries}
      (run : (p.processWithin m allowed 0).course o w = ⟨.done (.settled deliveries), w', ds⟩)
      (one : copiesIn ds = [op]) (rest : Trips o p allowed op.message.toIncoming w' w'' ds') :
      Trips o p allowed m w w'' (ds ++ ds')

theorem Trips.unique {σ : Type} {o : Outside σ} {p : ReceivePipeline} {allowed : Nat}
    {m : Incoming} {w a b : World σ} {ds es : List Deed} (first : Trips o p allowed m w a ds)
    (second : Trips o p allowed m w b es) : a = b ∧ ds = es := by
  induction first generalizing b es with
  | last run none =>
    cases second with
    | last run' none' =>
      cases run.symm.trans run'
      exact ⟨rfl, rfl⟩
    | again run' one' rest' =>
      cases run.symm.trans run'
      rw [none] at one'
      cases one'
  | again run one rest ih =>
    cases second with
    | last run' none' =>
      cases run.symm.trans run'
      rw [one] at none'
      cases none'
    | again run' one' rest' =>
      cases run.symm.trans run'
      cases one.symm.trans one'
      obtain ⟨world, deeds⟩ := ih rest'
      exact ⟨world, by rw [deeds]⟩

/-- What is done for a message over all its rounds, some delayed retries after those it had, when
its handler fails a number of times. -/
structure Counted (s : Settings) (m : Incoming) (rounds failures : Nat) (ds : List Deed) : Prop where
  calls : (tally ds).outcomes.length =
    if failures < (s.immediateRetries.toNat + 1) * (rounds + 1) then failures + 1
    else (s.immediateRetries.toNat + 1) * (rounds + 1)
  sent : ∃ copies last, (tally ds).sent = copies ++ last ∧
    (∀ i (op : Operation), copies[i]? = some op → op.IsRetry s m (m.headers.retryCount + (i + 1))) ∧
    if failures < (s.immediateRetries.toNat + 1) * (rounds + 1) then
      copies.length = failures / (s.immediateRetries.toNat + 1) ∧ last = []
    else copies.length = rounds ∧ ∃ op, last = [op] ∧ op.IsForwardOf s m
  refused : (tally ds).refused = []

section rounds
variable {σ : Type} {o : Outside σ} {slot failures : Nat} {name : String} {calls : σ → Nat}
  {m shown : Incoming} {st : σ} {s : Settings}

theorem acts_tally (ds : List Deed) :
    (tally (ds.filter Deed.isAct)).outcomes = (tally ds).outcomes ∧
      (tally (ds.filter Deed.isAct)).sent = (tally ds).sent ∧
      (tally (ds.filter Deed.isAct)).refused = (tally ds).refused := by
  induction ds with
  | nil => exact ⟨rfl, rfl, rfl⟩
  | cons d ds ih =>
    cases act : d.isAct with
    | true =>
      rw [List.filter_cons_of_pos act]
      simp [ih]
    | false =>
      rw [List.filter_cons_of_neg (by simp [act])]
      cases d with
      | entered stage messageId => simpa [Deed.tally] using ih
      | _ => cases act

theorem handleAll_fails (flaky : o.Flaky slot name m.id calls failures)
    (early : calls st < failures) :
    ∃ failure, (o.handleAll [(slot, name)] m st).verdict = .failed failure ∧
      failure.isRetryable = true := by
  obtain ⟨failure, failed, retryable⟩ := flaky.fails m st rfl early
  refine ⟨failure.claimedBy name, ?_, (isRetryable_claimedBy _ _).trans retryable⟩
  simp [Outside.handleAll, failed]

theorem handleAll_succeeds (flaky : o.Flaky slot name m.id calls failures)
    (late : failures ≤ calls st) : (o.handleAll [(slot, name)] m st).verdict = .done := by
  have done := flaky.succeeds m st rfl late
  simp [Outside.handleAll, done, Handled.after]

theorem handleAll_counted (flaky : o.Flaky slot name m.id calls failures) (st : σ) :
    calls (o.handleAll [(slot, name)] m st).outside = calls st + 1 ∧
      (tally (o.handleAll [(slot, name)] m st).deeds).outcomes.length = 1 := by
  have counted := flaky.counted m st rfl
  simp only [Outside.handleAll]
  cases (o.handle slot m st).1.outcome with
  | done => exact ⟨counted, rfl⟩
  | failed failure => exact ⟨counted, rfl⟩
  | panicked text => exact ⟨counted, rfl⟩

theorem attempts_succeed (flaky : o.Flaky slot name m.id calls failures) (left before : Nat)
    (started : calls st ≤ failures) (enough : failures - calls st ≤ left) :
    (o.attempts [(slot, name)] m left before st).verdict = .done ∧
      (tally (o.attempts [(slot, name)] m left before st).deeds).outcomes.length =
        failures - calls st + 1 := by
  -- On the retries left: the handler counts its own calls, so each attempt is one failure fewer.
  induction left generalizing before st with
  | zero =>
    have late : failures ≤ calls st := by omega
    have verdict := handleAll_succeeds flaky late
    rw [attempts_ending 0 before rfl (by simp [verdict])]
    have count := (handleAll_counted flaky st).2
    exact ⟨verdict, by omega⟩
  | succ left ih =>
    by_cases early : calls st < failures
    · obtain ⟨failure, failed, retryable⟩ := handleAll_fails flaky early
      obtain ⟨called, count⟩ := handleAll_counted flaky st
      rw [attempts_again left before rfl failed retryable rfl]
      have told : calls (o.notified (immediateNotice before
          (o.handleAll [(slot, name)] m st).message failure)
          (o.handleAll [(slot, name)] m st).outside) = calls st + 1 :=
        (flaky.notified _ _).trans called
      have startedLater : calls (o.notified (immediateNotice before
          (o.handleAll [(slot, name)] m st).message failure)
          (o.handleAll [(slot, name)] m st).outside) ≤ failures := by omega
      obtain ⟨verdict, later⟩ := ih (before + 1) startedLater (by omega)
      refine ⟨verdict, ?_⟩
      simp only [Handled.after, tally_append, Tally.outcomes_add, List.length_append, count, later,
        told]
      simp [Deed.tally]
      omega
    · have late : failures ≤ calls st := by omega
      have verdict := handleAll_succeeds flaky late
      rw [attempts_ending (left + 1) before rfl (by simp [verdict])]
      have count := (handleAll_counted flaky st).2
      exact ⟨verdict, by omega⟩

theorem attempts_fail (flaky : o.Flaky slot name m.id calls failures) (left before : Nat)
    (short : left < failures - calls st) :
    (∃ failure, (o.attempts [(slot, name)] m left before st).verdict = .failed failure ∧
        failure.isRetryable = true) ∧
      calls (o.attempts [(slot, name)] m left before st).outside = calls st + (left + 1) ∧
      (tally (o.attempts [(slot, name)] m left before st).deeds).outcomes.length = left + 1 := by
  induction left generalizing before st with
  | zero =>
    have early : calls st < failures := by omega
    obtain ⟨failure, failed, retryable⟩ := handleAll_fails flaky early
    rw [attempts_usedUp before rfl failed retryable]
    exact ⟨⟨failure, failed, retryable⟩, handleAll_counted flaky st⟩
  | succ left ih =>
    have early : calls st < failures := by omega
    obtain ⟨failure, failed, retryable⟩ := handleAll_fails flaky early
    obtain ⟨called, count⟩ := handleAll_counted flaky st
    rw [attempts_again left before rfl failed retryable rfl]
    have told : calls (o.notified (immediateNotice before
        (o.handleAll [(slot, name)] m st).message failure)
        (o.handleAll [(slot, name)] m st).outside) = calls st + 1 :=
      (flaky.notified _ _).trans called
    have shorter : left < failures - calls (o.notified (immediateNotice before
        (o.handleAll [(slot, name)] m st).message failure)
        (o.handleAll [(slot, name)] m st).outside) := by omega
    obtain ⟨verdict, later, counts⟩ := ih (before + 1) shorter
    refine ⟨verdict, ?_, ?_⟩
    · simp only [Handled.after, later, told]
      omega
    · simp only [Handled.after, tally_append, Tally.outcomes_add, List.length_append, count, counts]
      simp [Deed.tally]
      omega

theorem attempts_send_nothing (o : Outside σ) (handlers : List (Nat × String)) (m : Incoming)
    (left before : Nat) (st : σ) :
    (tally (o.attempts handlers m left before st).deeds).sent = [] ∧
      (tally (o.attempts handlers m left before st).deeds).refused = [] := by
  apply attempts_induction o handlers m
    (P := fun _ _ _ r => (tally r.deeds).sent = [] ∧ (tally r.deeds).refused = [])
  case ending =>
    rintro left before st r rfl _
    obtain ⟨sent, refused, _⟩ := handleAll_sends_nothing o handlers m st
    exact ⟨sent, refused⟩
  case usedUp =>
    rintro before st r failure rfl _ _
    obtain ⟨sent, refused, _⟩ := handleAll_sends_nothing o handlers m st
    exact ⟨sent, refused⟩
  case again =>
    rintro left before st r failure notice later rfl _ _ _ ⟨sent, refused⟩
    obtain ⟨sentFirst, refusedFirst, _⟩ := handleAll_sends_nothing o handlers m st
    simp only [Handled.after, tally_append, Tally.sent_add, Tally.refused_add, sentFirst,
      refusedFirst, sent, refused]
    exact ⟨rfl, rfl⟩

theorem nextRetry_of_alike (alike : m.Alike [] shown) :
    shown.headers.nextRetry = min (m.headers.retryCount + 1) Whole.max32 := by
  have retry := (DelayQuestion.about_alike alike (.deserialization "" "")).retry
  simp only [DelayQuestion.about] at retry
  exact retry.symm

theorem isRetry_delayedOperation (alike : m.Alike [] shown) (time : Instant)
    (within : m.headers.retryCount + 1 ≤ Whole.max32) :
    (delayedOperation s.address shown
      (s.delayed.increase.saturatingMul (m.headers.retryCount + 1)) time).IsRetry s m
        (m.headers.retryCount + 1) := by
  have number := nextRetry_of_alike alike
  rw [Nat.min_eq_left within] at number
  have written : (delayedOperation s.address shown
      (s.delayed.increase.saturatingMul (m.headers.retryCount + 1)) time).message.headers.get?
        Headers.retries = some (Whole.text (m.headers.retryCount + 1)) := by
    have other : Headers.retries ≠ Headers.retriesTimestamp := by decide
    simp [delayedOperation, Stage.delayedCopy, Headers.get?_insertIfNew, other, number]
  exact {
    destination := rfl
    id := alike.id.symm
    body := alike.originalBody.symm
    written
    read := by
      rw [Headers.retryCount, written]
      simp [readRetries_text within]
    delay := ⟨_, rfl, toNanos_saturatingMul _ _⟩ }

theorem forward_accepted (flaky : o.Flaky slot name m.id calls failures) (alike : m.Alike [] shown)
    (s : Settings) (failure : Failure) (st : σ) :
    let f := o.forward s failure shown st
    f.ended = .done none ∧ (tally f.deeds).outcomes = [] ∧ (tally f.deeds).refused = [] ∧
      ∃ op, (tally f.deeds).sent = [op] ∧ op.IsForwardOf s m := by
  have accepted := flaky.accepts
    (faultedOperation s.errorQueue s.address shown failure (o.now st)) st
  simp only [Outside.forward, accepted]
  exact ⟨trivial, rfl, rfl, _, rfl, rfl, alike.id.symm, alike.originalBody.symm, rfl⟩

theorem decided_granted (o : Outside σ) (alike : m.Alike [] shown) {failure : Failure}
    (retryable : failure.isRetryable = true) (granted : m.headers.retryCount < s.retryLimit)
    (limited : s.retryLimit < Whole.max32) (st : σ) :
    ∃ op asked question delay notice, op.IsRetry s m (m.headers.retryCount + 1) ∧
      notice.kind ≠ .faulted ∧
      ((o.dispatch op st).1.failure = none → o.decided s none failure shown st =
        ⟨.done none, o.notified notice (o.dispatch op st).2,
          [.consulted asked question (some delay), .dispatched op none, .notified notice]⟩) := by
  have active : s.delayed.isActive = true := by
    by_contra inactive
    simp [Settings.retryLimit, inactive] at granted
  rw [Settings.retryLimit, if_pos active] at granted limited
  have within : m.headers.retryCount + 1 ≤ Whole.max32 := by omega
  have number := nextRetry_of_alike alike
  rw [Nat.min_eq_left within] at number
  let delay := s.delayed.increase.saturatingMul (m.headers.retryCount + 1)
  have answer : DelayPolicy.linearDelay s.delayed.retries.toNat s.delayed.increase
      (m.headers.retryCount + 1) = some delay := by
    rw [DelayPolicy.linearDelay, if_neg (by omega)]
  refine ⟨delayedOperation s.address shown delay (o.now st),
    .linear s.delayed.retries.toNat s.delayed.increase, .about failure shown, delay,
    delayedNotice shown delay (o.now st) failure, isRetry_delayedOperation alike _ within,
    by simp [delayedNotice, Notification.kind], fun accepted => ?_⟩
  simp only [Outside.decided, ReceivePipeline.policyOf, active, if_true, retryable,
    Outside.consulted, Outside.answerPolicy, DelayQuestion.about, number, answer, accepted]

theorem decided_denied (o : Outside σ) (alike : m.Alike [] shown) (failure : Failure)
    (spent : failure.isRetryable = true → s.retryLimit ≤ m.headers.retryCount)
    (limited : s.retryLimit < Whole.max32) (st : σ) :
    ∃ ds, (tally ds).outcomes = [] ∧ (tally ds).sent = [] ∧ (tally ds).refused = [] ∧
      o.decided s none failure shown st = (o.forward s failure shown st).after ds := by
  simp only [Outside.decided, ReceivePipeline.policyOf]
  cases active : s.delayed.isActive with
  | false => exact ⟨[], rfl, rfl, rfl, rfl⟩
  | true =>
    cases retryable : failure.isRetryable with
    | false => exact ⟨[], rfl, rfl, rfl, rfl⟩
    | true =>
      have count := spent retryable
      rw [Settings.retryLimit, if_pos active] at count limited
      have number := nextRetry_of_alike alike
      have denied : DelayPolicy.linearDelay s.delayed.retries.toNat s.delayed.increase
          shown.headers.nextRetry = none := by
        rw [DelayPolicy.linearDelay, if_pos (by omega)]
      simp only [if_true, Outside.consulted, Outside.answerPolicy, DelayQuestion.about, denied]
      exact ⟨_, rfl, rfl, rfl, rfl⟩

theorem decided_retry (flaky : o.Flaky slot name m.id calls failures) (alike : m.Alike [] shown)
    {failure : Failure} (retryable : failure.isRetryable = true)
    (granted : m.headers.retryCount < s.retryLimit) (limited : s.retryLimit < Whole.max32)
    (st : σ) :
    let f := o.decided s none failure shown st
    f.ended = .done none ∧ calls f.outside = calls st ∧ (tally f.deeds).outcomes = [] ∧
      (tally f.deeds).refused = [] ∧
      ∃ op, (tally f.deeds).sent = [op] ∧ op.IsRetry s m (m.headers.retryCount + 1) := by
  obtain ⟨op, asked, question, delay, notice, retry, -, becomes⟩ :=
    decided_granted o alike retryable granted limited st
  rw [becomes (flaky.accepts op st)]
  refine ⟨rfl, ?_, rfl, rfl, op, rfl, retry⟩
  exact (flaky.notified _ _).trans (flaky.dispatched _ _)

theorem decided_forward (flaky : o.Flaky slot name m.id calls failures) (alike : m.Alike [] shown)
    (failure : Failure) (spent : s.retryLimit ≤ m.headers.retryCount)
    (limited : s.retryLimit < Whole.max32) (st : σ) :
    let f := o.decided s none failure shown st
    f.ended = .done none ∧ (tally f.deeds).outcomes = [] ∧ (tally f.deeds).refused = [] ∧
      ∃ op, (tally f.deeds).sent = [op] ∧ op.IsForwardOf s m := by
  obtain ⟨ended, outcomes, refused, op, sent, forward⟩ := forward_accepted flaky alike s failure st
  obtain ⟨ds, uncalled, unsent, unrefused, denied⟩ :=
    decided_denied o alike failure (fun _ => spent) limited st
  rw [denied]
  refine ⟨ended, ?_, ?_, op, ?_, forward⟩
  · simp [Fate.after, uncalled, outcomes]
  · simp [Fate.after, unrefused, refused]
  · simp [Fate.after, unsent, sent]

end rounds

namespace Cast

def callsIn (slot : Nat) (st : CastState) : Nat := (st.calls.lookup (slot, none)).getD 0

theorem countCall_counts (key : Nat × Option String) (calls : List ((Nat × Option String) × Nat)) :
    (countCall key calls).1 = (calls.lookup key).getD 0 + 1 ∧
      (countCall key calls).2.lookup key = some ((calls.lookup key).getD 0 + 1) := by
  induction calls with
  | nil => simp [countCall]
  | cons entry rest ih =>
    obtain ⟨k, n⟩ := entry
    by_cases here : k = key
    · simp [countCall, here]
    · have there : (key == k) = false := by simpa using fun h => here h.symm
      simp [countCall, here, List.lookup_cons, there, ih]

def recovering (failures : Nat) : Cast where
  handlers := [{ name := "Billing",
                 script := { acts := List.replicate failures { failure := some declined } } }]
  clock := ⟨0, 0⟩

theorem recovering_flaky (failures : Nat) (id : String) :
    (recovering failures).outside.Flaky 0 "Billing" id (callsIn 0) failures where
  counted m st _ := by
    obtain ⟨-, later⟩ := countCall_counts (0, none) st.calls
    simp [outside, host, handle, recovering, ScriptedHandler.part, callsIn, later]
  fails m st _ early := by
    obtain ⟨call, -⟩ := countCall_counts (0, none) st.calls
    have number : (countCall (0, none) st.calls).1 - 1 < failures := by
      rw [call]
      exact early
    refine ⟨declined.build st.nextIdentity, ?_, rfl⟩
    simp [outside, host, handle, recovering, ScriptedHandler.part, Script.act, Act.perform,
      Act.outcome, number]
  succeeds m st _ late := by
    obtain ⟨call, -⟩ := countCall_counts (0, none) st.calls
    have number : ¬(countCall (0, none) st.calls).1 - 1 < failures := by
      rw [call]
      exact Nat.not_lt.2 late
    simp [outside, host, handle, recovering, ScriptedHandler.part, Script.act, Act.perform,
      Act.outcome, number]
  keepsHeaders handler member m st := by
    cases List.mem_singleton.1 member
    simp only [outside, host, handle, recovering, ScriptedHandler.part, Script.act, Act.perform,
      List.getElem?_cons_zero, List.lookup_nil, List.getElem?_replicate]
    split <;> rfl
  accepts op st := by simp [outside, dispatch, recovering, failureOf]
  dispatched op st := rfl
  notified n st := rfl

end Cast

structure Round {σ : Type} (o : Outside σ) (p : ReceivePipeline) (allowed : Nat) (m : Incoming)
    (w w' : World σ) (ds : List Deed) (called : Nat) (sent : List Operation) : Prop where
  run : ∃ deliveries,
    (p.processWithin m allowed 0).course o w = ⟨.done (.settled deliveries), w', ds⟩
  forgotten : w'.table.lookup m.id = none
  calls : (tally ds).outcomes.length = called
  sent : (tally ds).sent = sent
  refused : (tally ds).refused = []

namespace ReceivePipeline
variable {σ : Type} {o : Outside σ} {slot failures : Nat} {name : String} {calls : σ → Nat}
  {m : Incoming} {w : World σ} {s : Settings} {p : ReceivePipeline} {allowed : Nat}

theorem exists_round (built : build s none (handlerStages [(slot, name)]) = .ok p)
    (unrecorded : w.table.lookup m.id = none) (room : s.immediateRetries.toNat + 3 ≤ allowed)
    {f : Fate σ} (fate : o.fate s none [(slot, name)] m s.immediateRetries.toNat 0 w.outside = f)
    (fine : f.ended = .done none) (refused : (tally f.deeds).refused = []) :
    ∃ w' ds, w'.outside = f.outside ∧
      Round o p allowed m w w' ds (tally f.deeds).outcomes.length (tally f.deeds).sent := by
  have fulfils := process_fulfils_fate (o := o) allowed 0 built unrecorded room
  rw [fate] at fulfils
  obtain ⟨run, course⟩ : ∃ run, (p.processWithin m allowed 0).course o w = run := ⟨_, rfl⟩
  rw [course] at fulfils
  obtain ⟨ended, w', ds⟩ := run
  obtain ⟨sameEnd, outside, acts, forgotten⟩ := fulfils
  simp only at sameEnd outside acts forgotten
  obtain ⟨calls, sent, unrefused⟩ := acts_tally ds
  obtain ⟨fateCalls, fateSent, fateRefused⟩ := acts_tally f.deeds
  rw [acts] at calls sent unrefused
  obtain ⟨deliveries, rfl⟩ := settled_of_fine (sameEnd.trans fine)
  exact ⟨w', ds, outside, {
    run := ⟨deliveries, course⟩
    forgotten := forgotten fine
    calls := by rw [← calls, fateCalls]
    sent := by rw [← sent, fateSent]
    refused := by rw [← unrefused, fateRefused, refused] }⟩

theorem round_succeeds (built : build s none (handlerStages [(slot, name)]) = .ok p)
    (flaky : o.Flaky slot name m.id calls failures) (unrecorded : w.table.lookup m.id = none)
    (room : s.immediateRetries.toNat + 3 ≤ allowed) (started : calls w.outside ≤ failures)
    (enough : failures - calls w.outside ≤ s.immediateRetries.toNat) :
    ∃ w' ds, Round o p allowed m w w' ds (failures - calls w.outside + 1) [] := by
  obtain ⟨verdict, count⟩ := attempts_succeed flaky _ 0 started enough
  obtain ⟨sent, refused⟩ := attempts_send_nothing o [(slot, name)] m
    s.immediateRetries.toNat 0 w.outside
  obtain ⟨r, attempted⟩ : ∃ r, o.attempts [(slot, name)] m s.immediateRetries.toNat 0 w.outside =
    r := ⟨_, rfl⟩
  rw [attempted] at verdict count sent refused
  have fate : o.fate s none [(slot, name)] m s.immediateRetries.toNat 0 w.outside =
      ⟨.done none, r.outside, r.deeds⟩ := by
    simp only [Outside.fate, attempted, verdict]
  obtain ⟨w', ds, -, round⟩ := exists_round built unrecorded room fate rfl refused
  exact ⟨w', ds, by rwa [count, sent] at round⟩

/-- A round in which the handler fails to the end, by what becomes of its failure. -/
theorem round_fails (built : build s none (handlerStages [(slot, name)]) = .ok p)
    (flaky : o.Flaky slot name m.id calls failures) (unrecorded : w.table.lookup m.id = none)
    (room : s.immediateRetries.toNat + 3 ≤ allowed)
    (short : s.immediateRetries.toNat < failures - calls w.outside) :
    ∃ shown st failure, m.Alike [] shown ∧ failure.isRetryable = true ∧
      calls st = calls w.outside + (s.immediateRetries.toNat + 1) ∧
      ∀ f : Fate σ, o.decided s none failure shown st = f → f.ended = .done none →
        (tally f.deeds).outcomes = [] → (tally f.deeds).refused = [] →
        ∃ w' ds, w'.outside = f.outside ∧ Round o p allowed m w w' ds
          (s.immediateRetries.toNat + 1) (tally f.deeds).sent := by
  obtain ⟨⟨failure, failed, retryable⟩, later, count⟩ := attempts_fail flaky _ 0 short
  obtain ⟨sent, refused⟩ := attempts_send_nothing o [(slot, name)] m
    s.immediateRetries.toNat 0 w.outside
  have alike := attempts_alike flaky.keepsHeaders m s.immediateRetries.toNat 0 w.outside
  obtain ⟨r, attempted⟩ : ∃ r, o.attempts [(slot, name)] m s.immediateRetries.toNat 0 w.outside =
    r := ⟨_, rfl⟩
  rw [attempted] at failed later count sent refused alike
  refine ⟨(modeOf s).shown m r.message, r.outside, failure, ?_, retryable, later, ?_⟩
  · cases modeOf s with
    | onNextDelivery => exact ⟨rfl, rfl, fun _ _ _ => rfl, fun _ member => by cases member⟩
    | atOnce => exact alike
  · rintro f decided fine outcomes unrefused
    have fate : o.fate s none [(slot, name)] m s.immediateRetries.toNat 0 w.outside =
        f.after r.deeds := by
      simp only [Outside.fate, attempted, failed, decided]
    obtain ⟨w', ds, outside, round⟩ := exists_round built unrecorded room fate fine
      (by simp [Fate.after, refused, unrefused])
    refine ⟨w', ds, outside, ?_⟩
    simpa [Fate.after, sent, outcomes, count] using round

theorem copiesIn_nil {ds : List Deed} (sent : (tally ds).sent = []) : copiesIn ds = [] := by
  simp [copiesIn, sent]

theorem copiesIn_forward {ds : List Deed} {op : Operation} (sent : (tally ds).sent = [op])
    (forward : op.IsForwardOf s m) : copiesIn ds = [] := by
  simp [copiesIn, sent, forward.delays]

theorem copiesIn_retry {ds : List Deed} {op : Operation} {number : Nat}
    (sent : (tally ds).sent = [op]) (retry : op.IsRetry s m number) : copiesIn ds = [op] := by
  obtain ⟨delay, delays, -⟩ := retry.delay
  simp [copiesIn, sent, delays]

theorem counted_of_success {ds : List Deed} (rounds : Nat)
    {w' : World σ} {left : Nat} (enough : left ≤ s.immediateRetries.toNat)
    (round : Round o p allowed m w w' ds (left + 1) []) : Counted s m rounds left ds := by
  have few : left < (s.immediateRetries.toNat + 1) * (rounds + 1) :=
    calc left < s.immediateRetries.toNat + 1 := Nat.lt_succ_of_le enough
      _ ≤ (s.immediateRetries.toNat + 1) * (rounds + 1) := Nat.le_mul_of_pos_right _ (by omega)
  refine ⟨?_, ⟨[], [], round.sent, ?_, ?_⟩, round.refused⟩
  · rw [if_pos few]
    exact round.calls
  · intro i op member
    cases member
  · rw [if_pos few]
    exact ⟨(Nat.div_eq_of_lt (by omega)).symm, rfl⟩

theorem counted_of_forward {ds : List Deed} {w' : World σ} {left : Nat} {op : Operation}
    (short : s.immediateRetries.toNat < left)
    (round : Round o p allowed m w w' ds (s.immediateRetries.toNat + 1) [op])
    (forward : op.IsForwardOf s m) : Counted s m 0 left ds := by
  have many : ¬left < (s.immediateRetries.toNat + 1) * (0 + 1) := by omega
  refine ⟨?_, ⟨[], [op], round.sent, ?_, ?_⟩, round.refused⟩
  · rw [if_neg many, round.calls]
    omega
  · intro i op member
    cases member
  · rw [if_neg many]
    exact ⟨rfl, op, rfl, forward⟩

theorem counted_of_retry {ds ds' : List Deed} {w' : World σ} {left rounds : Nat} {op : Operation}
    (short : s.immediateRetries.toNat < left)
    (round : Round o p allowed m w w' ds (s.immediateRetries.toNat + 1) [op])
    (retry : op.IsRetry s m (m.headers.retryCount + 1))
    (rest : Counted s op.message.toIncoming rounds (left - (s.immediateRetries.toNat + 1)) ds') :
    Counted s m (rounds + 1) left (ds ++ ds') := by
  obtain ⟨calls, ⟨copies, last, sent, numbered, ending⟩, refused⟩ := rest
  have number : op.message.toIncoming.headers.retryCount = m.headers.retryCount + 1 := retry.read
  have fewer : left < (s.immediateRetries.toNat + 1) * (rounds + 1 + 1) ↔
      left - (s.immediateRetries.toNat + 1) < (s.immediateRetries.toNat + 1) * (rounds + 1) := by
    rw [Nat.mul_succ _ (rounds + 1)]
    omega
  have quotient : left / (s.immediateRetries.toNat + 1) =
      (left - (s.immediateRetries.toNat + 1)) / (s.immediateRetries.toNat + 1) + 1 :=
    Nat.div_eq_sub_div (Nat.succ_pos _) short
  refine ⟨?_, ⟨op :: copies, last, ?_, ?_, ?_⟩, ?_⟩
  · simp only [tally_append, Tally.outcomes_add, List.length_append, round.calls, calls, fewer]
    split
    · omega
    · rw [Nat.mul_succ _ (rounds + 1)]
      omega
  · simp [round.sent, sent]
  · intro i copy member
    cases i with
    | zero =>
      cases member
      exact retry
    | succ i =>
      have later := numbered i copy member
      rw [number] at later
      rw [show m.headers.retryCount + (i + 1 + 1) = m.headers.retryCount + 1 + (i + 1) by omega]
      exact { later with id := later.id.trans retry.id, body := later.body.trans retry.body }
  · simp only [fewer]
    split at ending
    · rename_i few
      rw [if_pos few, List.length_cons, quotient, ending.1]
      exact ⟨rfl, ending.2⟩
    · rename_i many
      obtain ⟨all, forwarded, alone, forward⟩ := ending
      rw [if_neg many, List.length_cons, all]
      exact ⟨rfl, forwarded, alone,
        { forward with id := forward.id.trans retry.id, body := forward.body.trans retry.body }⟩
  · simp [round.refused, refused]

theorem trips_of_success (built : build s none (handlerStages [(slot, name)]) = .ok p)
    (flaky : o.Flaky slot name m.id calls failures) (unrecorded : w.table.lookup m.id = none)
    (room : s.immediateRetries.toNat + 3 ≤ allowed) (started : calls w.outside ≤ failures)
    (enough : failures - calls w.outside ≤ s.immediateRetries.toNat) (rounds : Nat) :
    ∃ w' ds, Trips o p allowed m w w' ds ∧ Counted s m rounds (failures - calls w.outside) ds := by
  obtain ⟨w', ds, round⟩ := round_succeeds built flaky unrecorded room started enough
  obtain ⟨deliveries, run⟩ := round.run
  exact ⟨w', ds, .last run (copiesIn_nil round.sent), counted_of_success rounds enough round⟩

theorem trips_of_forward (built : build s none (handlerStages [(slot, name)]) = .ok p)
    (flaky : o.Flaky slot name m.id calls failures) (limited : s.retryLimit < Whole.max32)
    (unrecorded : w.table.lookup m.id = none) (room : s.immediateRetries.toNat + 3 ≤ allowed)
    (short : s.immediateRetries.toNat < failures - calls w.outside)
    (spent : s.retryLimit ≤ m.headers.retryCount) :
    ∃ w' ds, Trips o p allowed m w w' ds ∧ Counted s m 0 (failures - calls w.outside) ds := by
  obtain ⟨shown, st, failure, alike, -, -, becomes⟩ :=
    round_fails built flaky unrecorded room short
  obtain ⟨fine, outcomes, refused, op, sent, forward⟩ :=
    decided_forward flaky alike failure spent limited st
  obtain ⟨w', ds, -, round⟩ := becomes _ rfl fine outcomes refused
  rw [sent] at round
  obtain ⟨deliveries, run⟩ := round.run
  exact ⟨w', ds, .last run (copiesIn_forward round.sent forward),
    counted_of_forward short round forward⟩

theorem round_retries (built : build s none (handlerStages [(slot, name)]) = .ok p)
    (flaky : o.Flaky slot name m.id calls failures) (limited : s.retryLimit < Whole.max32)
    (unrecorded : w.table.lookup m.id = none) (room : s.immediateRetries.toNat + 3 ≤ allowed)
    (short : s.immediateRetries.toNat < failures - calls w.outside)
    (granted : m.headers.retryCount < s.retryLimit) :
    ∃ op w' ds, Round o p allowed m w w' ds (s.immediateRetries.toNat + 1) [op] ∧
      op.IsRetry s m (m.headers.retryCount + 1) ∧
      calls w'.outside = calls w.outside + (s.immediateRetries.toNat + 1) := by
  obtain ⟨shown, st, failure, alike, retryable, later, becomes⟩ :=
    round_fails built flaky unrecorded room short
  obtain ⟨fine, kept, outcomes, refused, op, sent, retry⟩ :=
    decided_retry (s := s) flaky alike retryable granted limited st
  obtain ⟨w', ds, outside, round⟩ := becomes _ rfl fine outcomes refused
  rw [sent] at round
  exact ⟨op, w', ds, round, retry, by rw [outside, kept, later]⟩

theorem exists_trips (built : build s none (handlerStages [(slot, name)]) = .ok p)
    {id : String} (flaky : o.Flaky slot name id calls failures)
    (limited : s.retryLimit < Whole.max32) (room : s.immediateRetries.toNat + 3 ≤ allowed)
    (rounds : Nat) (named : m.id = id) (unrecorded : w.table.lookup m.id = none)
    (started : calls w.outside ≤ failures)
    (left : s.retryLimit - min m.headers.retryCount s.retryLimit = rounds) :
    ∃ w' ds, Trips o p allowed m w w' ds ∧ Counted s m rounds (failures - calls w.outside) ds := by
  -- On the delayed retries left to the message, which each copy counts down.
  induction rounds generalizing m w with
  | zero =>
    subst named
    by_cases enough : failures - calls w.outside ≤ s.immediateRetries.toNat
    · exact trips_of_success built flaky unrecorded room started enough 0
    · exact trips_of_forward built flaky limited unrecorded room (Nat.lt_of_not_le enough)
        (by omega)
  | succ rounds ih =>
    subst named
    by_cases enough : failures - calls w.outside ≤ s.immediateRetries.toNat
    · exact trips_of_success built flaky unrecorded room started enough (rounds + 1)
    · have short : s.immediateRetries.toNat < failures - calls w.outside := Nat.lt_of_not_le enough
      obtain ⟨op, w', ds, round, retry, called⟩ :=
        round_retries built flaky limited unrecorded room short (by omega)
      -- The copy comes back with one retry more behind it and so many failures fewer ahead.
      have number : op.message.toIncoming.headers.retryCount = m.headers.retryCount + 1 := retry.read
      have known : op.message.toIncoming.id = m.id := retry.id
      have forgotten : w'.table.lookup op.message.toIncoming.id = none := by
        rw [known]
        exact round.forgotten
      obtain ⟨w'', ds', trips, counted⟩ := ih known forgotten (by omega) (by omega)
      rw [called, show failures - (calls w.outside + (s.immediateRetries.toNat + 1)) =
        failures - calls w.outside - (s.immediateRetries.toNat + 1) by omega] at counted
      obtain ⟨deliveries, run⟩ := round.run
      exact ⟨w'', ds ++ ds', .again run (copiesIn_retry round.sent retry) trips,
        counted_of_retry short round retry counted⟩

/-- A message whose handler fails a number of times is called for until it succeeds, with one copy
sent for each round of attempts that all failed, unless the delayed retries that are left to it
run out before: then every round fails and the last one ends in the error queue. -/
theorem rounds_counted (built : build s none (handlerStages [(slot, name)]) = .ok p)
    (flaky : o.Flaky slot name m.id calls failures) (fresh : calls w.outside = 0)
    (unrecorded : w.table.lookup m.id = none) (limited : s.retryLimit < Whole.max32)
    (room : s.immediateRetries.toNat + 3 ≤ allowed) :
    (∃ w' ds, Trips o p allowed m w w' ds) ∧ ∀ w' ds, Trips o p allowed m w w' ds →
      Counted s m (s.retryLimit - min m.headers.retryCount s.retryLimit) failures ds := by
  obtain ⟨w', ds, trips, counted⟩ :=
    exists_trips built flaky limited room _ rfl unrecorded (by omega) rfl
  rw [fresh, Nat.sub_zero] at counted
  refine ⟨⟨w', ds, trips⟩, fun w'' ds' other => ?_⟩
  rw [← (trips.unique other).2]
  exact counted

theorem recovering_rounds_counted : ∃ p,
    build (.forAddress "orders") none (handlerStages [(0, "Billing")]) = .ok p ∧
    (Cast.recovering 13).outside.Flaky 0 "Billing" "" (Cast.callsIn 0) 13 ∧
    Cast.callsIn 0 {} = 0 ∧ (FailureTable.ofCapacity 1000).lookup "" = none ∧
    (Settings.forAddress "orders").retryLimit < Whole.max32 ∧
    (Settings.forAddress "orders").immediateRetries.toNat + 3 ≤ Whole.max32 ∧
    (∃ w' ds, Trips (Cast.recovering 13).outside p Whole.max32 default ⟨.ofCapacity 1000, {}⟩
      w' ds) ∧
    ∀ w' ds, Trips (Cast.recovering 13).outside p Whole.max32 default ⟨.ofCapacity 1000, {}⟩
        w' ds →
      Counted (.forAddress "orders") default 3 13 ds := by
  have built := build_ok (s := .forAddress "orders") rfl rfl none (handlerStages [(0, "Billing")])
  have flaky := Cast.recovering_flaky 13 ""
  exact ⟨_, built, flaky, rfl, rfl, by decide, by decide,
    rounds_counted (m := default) (w := ⟨.ofCapacity 1000, {}⟩) built flaky rfl rfl (by decide)
      (by decide)⟩

end ReceivePipeline
end Redelivery
