import Redelivery.Pipeline.Receive
import Redelivery.Proofs.Delivery.Attempt

/-! Decisions about delayed retries. A decision sends a copy of the message, fails to send it, or
leaves the failure to the error queue. Where a receive can be aborted, a failure that used up its
immediate retries is only recorded, and the next delivery decides without an attempt; else the
decision follows the attempt. -/
namespace Redelivery

def DelayQuestion.about (failure : Failure) (m : Incoming) : DelayQuestion :=
  { message := m, failure, retry := m.headers.nextRetry }

def delayedOperation (address : String) (m : Incoming) (delay : Duration) (time : Instant) :
    Operation :=
  { message := Stage.delayedCopy m.revert m.headers.nextRetry time, destination := address,
    delays := [delay] }

def delayedNotice (m : Incoming) (delay : Duration) (time : Instant) (failure : Failure) :
    Notification :=
  .retry m.headers.nextRetry delay false
    (Stage.delayedCopy m.revert m.headers.nextRetry time).toIncoming failure

def delayAlarm : String := "Failed to schedule delayed retry"

/-- A recorded failure is forgotten when the decision about it is no retry. -/
def DecisionMode.onDenial (mode : DecisionMode) (id : String) (t : FailureTable) : FailureTable :=
  match mode with
  | .onNextDelivery => t.clear id
  | .atOnce => t

def DecisionMode.forgetting (mode : DecisionMode) (id : String) : Flow Unit :=
  match mode with
  | .onNextDelivery => Flow.clear id
  | .atOnce => pure ()

/-- A decision about a failure, of an earlier delivery or of the one at hand. -/
def DecisionMode.decide (mode : DecisionMode) (policy : DelayPolicy) (failure : Failure)
    (c : Context) : Flow Passage :=
  match mode with
  | .onNextDelivery => Stage.resumeDelay policy failure c
  | .atOnce => Stage.settleDelay policy failure c

theorem DecisionMode.decide_eq (mode : DecisionMode) (policy : DelayPolicy) (failure : Failure)
    (c : Context) :
    mode.decide policy failure c = (do
      match ← Stage.grantedDelay policy failure c.message with
      | some (retry, delay) => Stage.deferMessage failure retry delay c
      | none =>
        mode.forgetting c.message.id
        Stage.delayedRetriesUsedUp failure c) := by
  cases mode <;> rfl

inductive Defers {σ : Type} (o : Outside σ) (mode : DecisionMode) (policy : DelayPolicy)
    (failure : Failure) (c : Context) (w : World σ) : Passage → World σ → List Deed → Prop where
  | sent {delay : Duration} {st : σ} {op : Operation} {notice : Notification}
      (retryable : failure.isRetryable = true)
      (granted : (o.answerPolicy policy (.about failure c.message) w.outside).1 = some delay)
      (left : (o.answerPolicy policy (.about failure c.message) w.outside).2.1 = st)
      (copy : op = delayedOperation c.address c.message delay (o.now st))
      (accepted : (o.dispatch op st).1.failure = none)
      (told : notice = delayedNotice c.message delay (o.now st) failure) :
      Defers o mode policy failure c w { context := { c with message := c.message.revert } }
        { table := w.table.clear c.message.id, outside := o.notified notice (o.dispatch op st).2 }
        [.consulted policy (.about failure c.message) (some delay), .dispatched op none,
          .notified notice]
  | refused {delay : Duration} {st : σ} {op : Operation} {dispatchFailure : Failure}
      (retryable : failure.isRetryable = true)
      (granted : (o.answerPolicy policy (.about failure c.message) w.outside).1 = some delay)
      (left : (o.answerPolicy policy (.about failure c.message) w.outside).2.1 = st)
      (copy : op = delayedOperation c.address c.message delay (o.now st))
      (refused : (o.dispatch op st).1.failure = some dispatchFailure) :
      Defers o mode policy failure c w
        { context := { c with message := c.message.revert }, failure := some dispatchFailure }
        { w with outside := (o.dispatch op st).2 }
        [.consulted policy (.about failure c.message) (some delay),
          .dispatched op (some dispatchFailure), .critical delayAlarm dispatchFailure]
  | denied {st : σ} (retryable : failure.isRetryable = true)
      (denied : (o.answerPolicy policy (.about failure c.message) w.outside).1 = none)
      (left : (o.answerPolicy policy (.about failure c.message) w.outside).2.1 = st) :
      Defers o mode policy failure c w
        { context := { c with message := c.message.removeHeader Headers.retries },
          failure := some failure }
        { table := mode.onDenial c.message.id w.table, outside := st }
        [.consulted policy (.about failure c.message) none]
  | unasked (hopeless : failure.isRetryable = false) :
      Defers o mode policy failure c w
        { context := { c with message := c.message.removeHeader Headers.retries },
          failure := some failure }
        { w with table := mode.onDenial c.message.id w.table } []

section decision
variable {σ : Type} {o : Outside σ} {mode : DecisionMode} {policy : DelayPolicy}
  {failure : Failure} {c : Context} {w w' : World σ} {p : Passage} {ds : List Deed}

theorem exists_defers (o : Outside σ) (mode : DecisionMode) (policy : DelayPolicy)
    (failure : Failure) (c : Context) (w : World σ) :
    ∃ p w' ds, Defers o mode policy failure c w p w' ds := by
  cases retryable : failure.isRetryable with
  | false => exact ⟨_, _, _, .unasked retryable⟩
  | true =>
    cases granted : (o.answerPolicy policy (.about failure c.message) w.outside).1 with
    | none => exact ⟨_, _, _, .denied retryable granted rfl⟩
    | some delay =>
      cases refused : (o.dispatch (delayedOperation c.address c.message delay
          (o.now (o.answerPolicy policy (.about failure c.message) w.outside).2.1))
          (o.answerPolicy policy (.about failure c.message) w.outside).2.1).1.failure with
      | none => exact ⟨_, _, _, .sent retryable granted rfl rfl refused rfl⟩
      | some dispatchFailure => exact ⟨_, _, _, .refused retryable granted rfl rfl refused⟩

theorem course_grantedDelay (policy : DelayPolicy) (retryable : failure.isRetryable = true)
    (m : Incoming) (w : World σ) :
    (Stage.grantedDelay policy failure m).course o w =
      let answer := o.answerPolicy policy (.about failure m) w.outside
      ⟨.done (answer.1.map fun delay => (m.headers.nextRetry, delay)),
        { w with outside := answer.2.1 }, [.consulted policy (.about failure m) answer.1]⟩ := by
  simp only [Stage.grantedDelay, if_pos retryable, Flow.course_logAll, Flow.course_consult,
    Flow.course_pure]
  rfl

theorem course_delayedRetriesUsedUp (failure : Failure) (c : Context) (w : World σ) :
    (Stage.delayedRetriesUsedUp failure c).course o w =
      ⟨.done { context := { c with message := c.message.removeHeader Headers.retries },
               failure := some failure }, w, []⟩ := by
  unfold Stage.delayedRetriesUsedUp
  split <;> rfl

theorem course_forgetting {α : Type} (mode : DecisionMode) (id : String) (f : Unit → Flow α)
    (w : World σ) :
    (mode.forgetting id >>= f).course o w =
      (f ()).course o { w with table := mode.onDenial id w.table } := by
  cases mode <;> rfl

theorem course_deferMessage_sent (w : World σ) {delay : Duration} {op : Operation}
    (copy : op = delayedOperation c.address c.message delay (o.now w.outside))
    (accepted : (o.dispatch op w.outside).1.failure = none) :
    (Stage.deferMessage failure c.message.headers.nextRetry delay c).course o w =
      let notice := delayedNotice c.message delay (o.now w.outside) failure
      ⟨.done { context := { c with message := c.message.revert } },
        { table := w.table.clear c.message.id,
          outside := o.notified notice (o.dispatch op w.outside).2 },
        [.dispatched op none, .notified notice]⟩ := by
  subst copy
  simp only [Stage.deferMessage, Flow.course_now, Flow.course_dispatch]
  rw [delayedOperation] at accepted ⊢
  rw [accepted]
  rfl

theorem course_deferMessage_refused (w : World σ) {delay : Duration} {op : Operation}
    {dispatchFailure : Failure}
    (copy : op = delayedOperation c.address c.message delay (o.now w.outside))
    (refused : (o.dispatch op w.outside).1.failure = some dispatchFailure) :
    (Stage.deferMessage failure c.message.headers.nextRetry delay c).course o w =
      ⟨.done { context := { c with message := c.message.revert },
               failure := some dispatchFailure },
        { w with outside := (o.dispatch op w.outside).2 },
        [.dispatched op (some dispatchFailure), .critical delayAlarm dispatchFailure]⟩ := by
  subst copy
  simp only [Stage.deferMessage, Flow.course_now, Flow.course_dispatch]
  rw [delayedOperation] at refused ⊢
  rw [refused]
  rfl

theorem Defers.course (defers : Defers o mode policy failure c w p w' ds) :
    (mode.decide policy failure c).course o w = ⟨.done p, w', ds⟩ := by
  rw [DecisionMode.decide_eq]
  cases defers with
  | sent retryable granted left copy accepted told =>
    subst left told
    rw [Flow.course_bind_done _ _ (course_grantedDelay policy retryable c.message w), granted]
    simp only [Option.map_some]
    rw [course_deferMessage_sent { w with outside := _ } copy accepted]
    rfl
  | refused retryable granted left copy refused =>
    subst left
    rw [Flow.course_bind_done _ _ (course_grantedDelay policy retryable c.message w), granted]
    simp only [Option.map_some]
    rw [course_deferMessage_refused { w with outside := _ } copy refused]
    rfl
  | denied retryable denied left =>
    subst left
    rw [Flow.course_bind_done _ _ (course_grantedDelay policy retryable c.message w), denied]
    simp only [Option.map_none, course_forgetting, course_delayedRetriesUsedUp]
    rfl
  | unasked hopeless =>
    have silent : Stage.grantedDelay policy failure c.message = pure none := by
      rw [Stage.grantedDelay, if_neg (by simp [hopeless])]
    rw [silent, Flow.course_bind_done _ _ (Flow.course_pure o w none)]
    simp only [course_forgetting, course_delayedRetriesUsedUp]
    rfl

theorem Defers.forgotten (defers : Defers o mode policy failure c w p w' ds)
    (fine : p.failure = none) : w'.table.lookup c.message.id = none := by
  cases defers with
  | sent retryable granted left copy accepted told => simp
  | refused retryable granted left copy refused => cases fine
  | denied retryable denied left => cases fine
  | unasked hopeless => cases fine

theorem Defers.aborted (defers : Defers o mode policy failure c w p w' ds) :
    p.context.aborted = c.aborted := by
  cases defers <;> rfl

theorem Defers.keeps (defers : Defers o mode policy failure c w p w' ds) :
    p.context.message.id = c.message.id ∧ p.context.address = c.address := by
  cases defers <;> exact ⟨rfl, rfl⟩

end decision

def retryStages (mode : DecisionMode) (policy : Option DelayPolicy) (bound : Nat)
    (handlers : List (Nat × String)) : List Stage :=
  (policy.map fun policy =>
    ⟨ReceivePipeline.delayedRetriesName, Stage.delayedRetries mode policy⟩).toList ++
    ⟨ReceivePipeline.immediateRetriesName, Stage.immediateRetries bound⟩ :: handlerStages handlers

theorem retryStages_some (mode : DecisionMode) (policy : DelayPolicy) (bound : Nat)
    (handlers : List (Nat × String)) :
    retryStages mode (some policy) bound handlers =
      ⟨ReceivePipeline.delayedRetriesName, Stage.delayedRetries mode policy⟩ ::
        retryStages mode none bound handlers := rfl

def attemptDeeds (c : Context) (ds : List Deed) : List Deed :=
  .entered ReceivePipeline.immediateRetriesName c.message.id :: ds

/-- The ways of a delivery through the stage of delayed retries. -/
inductive Delays {σ : Type} (o : Outside σ) (handlers : List (Nat × String)) (bound : Nat)
    (mode : DecisionMode) (c : Context) (w : World σ) :
    Option DelayPolicy → Passage → World σ → List Deed → Prop where
  | absent {p w' ds} (tries : Tries o handlers bound c w p w' ds) :
      Delays o handlers bound mode c w none p w' (attemptDeeds c ds)
  | resumed {policy failure p w' ds} (later : mode = .onNextDelivery)
      (pending : w.table.pendingDelay c.message.id = some failure)
      (defers : Defers o mode policy failure c w p w' ds) :
      Delays o handlers bound mode c w (some policy) p w'
        (.entered ReceivePipeline.delayedRetriesName c.message.id :: ds)
  | passed {policy p w' ds}
      (fresh : mode = .onNextDelivery → w.table.pendingDelay c.message.id = none)
      (tries : Tries o handlers bound c w p w' ds) (fine : p.failure = none) :
      Delays o handlers bound mode c w (some policy) p w'
        (.entered ReceivePipeline.delayedRetriesName c.message.id :: attemptDeeds c ds)
  | postponed {policy p w' ds failure} (later : mode = .onNextDelivery)
      (fresh : w.table.pendingDelay c.message.id = none)
      (tries : Tries o handlers bound c w p w' ds) (failed : p.failure = some failure)
      (retryable : failure.isRetryable = true) :
      Delays o handlers bound mode c w (some policy) { context := p.context.abort }
        { w' with table := (w'.table.record c.message.id failure false true).1 }
        (.entered ReceivePipeline.delayedRetriesName c.message.id :: attemptDeeds c ds)
  | unreadable {policy p w' ds failure} (later : mode = .onNextDelivery)
      (fresh : w.table.pendingDelay c.message.id = none)
      (tries : Tries o handlers bound c w p w' ds) (failed : p.failure = some failure)
      (hopeless : failure.isRetryable = false) :
      Delays o handlers bound mode c w (some policy)
        { context :=
            { p.context with message := p.context.message.removeHeader Headers.retries },
          failure := some failure } w'
        (.entered ReceivePipeline.delayedRetriesName c.message.id :: attemptDeeds c ds)
  | decided {policy p w' ds failure p' w'' ds'} (now : mode = .atOnce)
      (tries : Tries o handlers bound c w p w' ds) (failed : p.failure = some failure)
      (defers : Defers o mode policy failure p.context w' p' w'' ds') :
      Delays o handlers bound mode c w (some policy) p' w''
        (.entered ReceivePipeline.delayedRetriesName c.message.id :: attemptDeeds c ds ++ ds')

section delay
variable {σ : Type} {o : Outside σ} {handlers : List (Nat × String)} {bound : Nat}
  {mode : DecisionMode} {c : Context} {w w' : World σ} {policy : Option DelayPolicy}
  {p : Passage} {ds : List Deed}

theorem exists_delays (quiet : ∀ text, (o.handleAll handlers c.message w.outside).verdict ≠
      .panicked text) (bound : Nat) (mode : DecisionMode) (policy : Option DelayPolicy) :
    ∃ p w' ds, Delays o handlers bound mode c w policy p w' ds := by
  obtain ⟨p, w', ds, tries⟩ := exists_tries quiet bound
  cases policy with
  | none => exact ⟨_, _, _, .absent tries⟩
  | some policy =>
    cases failed : p.failure with
    | none =>
      cases mode with
      | atOnce => exact ⟨_, _, _, .passed (fun h => by cases h) tries failed⟩
      | onNextDelivery =>
        cases pending : w.table.pendingDelay c.message.id with
        | none => exact ⟨_, _, _, .passed (fun _ => pending) tries failed⟩
        | some old =>
          obtain ⟨p', w'', ds', defers⟩ := exists_defers o .onNextDelivery policy old c w
          exact ⟨_, _, _, .resumed rfl pending defers⟩
    | some failure =>
      cases mode with
      | atOnce =>
        obtain ⟨p', w'', ds', defers⟩ := exists_defers o .atOnce policy failure p.context w'
        exact ⟨_, _, _, .decided rfl tries failed defers⟩
      | onNextDelivery =>
        cases pending : w.table.pendingDelay c.message.id with
        | some old =>
          obtain ⟨p', w'', ds', defers⟩ := exists_defers o .onNextDelivery policy old c w
          exact ⟨_, _, _, .resumed rfl pending defers⟩
        | none =>
          cases retryable : failure.isRetryable with
          | true => exact ⟨_, _, _, .postponed rfl pending tries failed retryable⟩
          | false => exact ⟨_, _, _, .unreadable rfl pending tries failed retryable⟩

theorem Tries.course_entered (tries : Tries o handlers bound c w p w' ds) (mode : DecisionMode) :
    (runStages (retryStages mode none bound handlers) c).course o w =
      ⟨.done p, w', attemptDeeds c ds⟩ := by
  change (runStages (⟨ReceivePipeline.immediateRetriesName, Stage.immediateRetries bound⟩ ::
    handlerStages handlers) c).course o w = _
  rw [course_runStages, tries.course]
  rfl

theorem course_delayedRetries_fresh {policy : DelayPolicy}
    (fresh : w.table.pendingDelay c.message.id = none) (rest : Way) :
    (Stage.delayedRetries .onNextDelivery policy rest c).course o w =
      (rest c >>= fun p => match p.failure with
        | none => pure p
        | some failure =>
          if failure.isRetryable then Stage.postponeDelay c.message.id failure p.context
          else Stage.delayedRetriesUsedUp failure p.context).course o w := by
  simp only [Stage.delayedRetries, Flow.course_lookup]
  cases known : w.table.lookup c.message.id with
  | none => rfl
  | some r =>
    obtain ⟨attempts, failure, toErrorQueue, toDelay⟩ := r
    cases toDelay with
    | false => rfl
    | true => simp [FailureTable.pendingDelay, known] at fresh

theorem course_delayedRetries_pending {policy : DelayPolicy} {failure : Failure}
    (pending : w.table.pendingDelay c.message.id = some failure) (rest : Way) :
    (Stage.delayedRetries .onNextDelivery policy rest c).course o w =
      (Stage.resumeDelay policy failure c).course o w := by
  simp only [Stage.delayedRetries, Flow.course_lookup]
  cases known : w.table.lookup c.message.id with
  | none => simp [FailureTable.pendingDelay, known] at pending
  | some r =>
    obtain ⟨attempts, old, toErrorQueue, toDelay⟩ := r
    cases toDelay with
    | false => simp [FailureTable.pendingDelay, known] at pending
    | true =>
      simp only [FailureTable.pendingDelay, known, Option.some.injEq] at pending
      subst pending
      rfl

theorem Delays.course (delays : Delays o handlers bound mode c w policy p w' ds) :
    (runStages (retryStages mode policy bound handlers) c).course o w = ⟨.done p, w', ds⟩ := by
  cases delays with
  | absent tries => exact tries.course_entered mode
  | resumed later pending defers =>
    subst later
    have decided := defers.course
    simp only [DecisionMode.decide] at decided
    rw [retryStages_some, course_runStages, course_delayedRetries_pending pending, decided]
    rfl
  | passed fresh tries fine =>
    rw [retryStages_some, course_runStages]
    cases mode with
    | onNextDelivery =>
      rw [course_delayedRetries_fresh (fresh rfl),
        Flow.course_bind_done _ _ (tries.course_entered _), fine]
      simp [Flow.course_pure]
    | atOnce =>
      simp only [Stage.delayedRetries]
      rw [Flow.course_bind_done _ _ (tries.course_entered _), fine]
      simp [Flow.course_pure]
  | postponed later fresh tries failed retryable =>
    subst later
    rw [retryStages_some, course_runStages, course_delayedRetries_fresh fresh,
      Flow.course_bind_done _ _ (tries.course_entered _), failed]
    simp [retryable, Stage.postponeDelay, Flow.course_log, Flow.course_record, Flow.course_pure]
  | unreadable later fresh tries failed hopeless =>
    subst later
    rw [retryStages_some, course_runStages, course_delayedRetries_fresh fresh,
      Flow.course_bind_done _ _ (tries.course_entered _), failed]
    simp [hopeless, course_delayedRetriesUsedUp]
  | decided now tries failed defers =>
    subst now
    have decided := defers.course
    simp only [DecisionMode.decide] at decided
    rw [retryStages_some, course_runStages]
    simp only [Stage.delayedRetries]
    rw [Flow.course_bind_done _ _ (tries.course_entered _), failed]
    simp [decided]

theorem Delays.keeps (delays : Delays o handlers bound mode c w policy p w' ds) :
    p.context.message.id = c.message.id ∧ p.context.address = c.address := by
  cases delays with
  | absent tries => exact tries.keeps
  | resumed later pending defers => exact defers.keeps
  | passed fresh tries fine => exact tries.keeps
  | postponed later fresh tries failed retryable => exact tries.keeps
  | unreadable later fresh tries failed hopeless => exact tries.keeps
  | decided now tries failed defers =>
    exact ⟨defers.keeps.1.trans tries.keeps.1, defers.keeps.2.trans tries.keeps.2⟩

theorem course_retryStages_panicked
    (fresh : mode = .onNextDelivery → policy = none ∨ w.table.pendingDelay c.message.id = none)
    {r : Handled σ} {text : String} (handled : o.handleAll handlers c.message w.outside = r)
    (panic : r.verdict = .panicked text) (bound : Nat) :
    ∃ ds, (runStages (retryStages mode policy bound handlers) c).course o w =
        ⟨.panicked text, { w with outside := r.outside }, ds⟩ ∧
      ds.filter Deed.isAct = r.deeds.filter Deed.isAct := by
  have first : (runStages (retryStages mode none bound handlers) c).course o w =
      ⟨.panicked text, { w with outside := r.outside }, attemptDeeds c r.deeds⟩ := by
    change (runStages (⟨ReceivePipeline.immediateRetriesName, Stage.immediateRetries bound⟩ ::
      handlerStages handlers) c).course o w = _
    rw [course_runStages, course_immediateRetries_panicked handled panic bound]
    rfl
  cases policy with
  | none => exact ⟨_, first, by simp [attemptDeeds, Deed.isAct]⟩
  | some policy =>
    refine ⟨.entered ReceivePipeline.delayedRetriesName c.message.id :: attemptDeeds c r.deeds, ?_,
      by simp [attemptDeeds, Deed.isAct]⟩
    rw [retryStages_some, course_runStages]
    cases mode with
    | onNextDelivery =>
      have undelayed := (fresh rfl).resolve_left nofun
      rw [course_delayedRetries_fresh undelayed, Flow.course_bind_panicked _ _ first]
      rfl
    | atOnce =>
      simp only [Stage.delayedRetries]
      rw [Flow.course_bind_panicked _ _ first]
      rfl

end delay
end Redelivery
