import Redelivery.Proofs.Delivery.Deferral

/-! One delivery through a whole pipeline of handlers. A failure that comes out of the retries
ends the message in the error queue. Where a receive can be aborted, the failure is recorded, and
the next delivery forwards the message without an attempt; else it is forwarded at once. -/
namespace Redelivery

def faultedOperation (errorQueue address : String) (m : Incoming) (failure : Failure)
    (time : Instant) : Operation :=
  { message := (m.faulted failure address time).toOutgoing, destination := errorQueue }

def forwardAlarm : String := "Failed to forward message to error queue"

/-- No decision about an earlier failure of a message waits for its next delivery. -/
def FailureTable.Undecided (t : FailureTable) (mode : DecisionMode) (policy : Option DelayPolicy)
    (id : String) : Prop :=
  mode = .onNextDelivery → t.pendingForward id = none ∧ (policy = none ∨ t.pendingDelay id = none)

inductive Forwards {σ : Type} (o : Outside σ) (errorQueue : String) (failure : Failure)
    (c : Context) (w : World σ) : Passage → World σ → List Deed → Prop where
  | sent {op : Operation} {notice : Notification}
      (copy : op = faultedOperation errorQueue c.address c.message failure (o.now w.outside))
      (accepted : (o.dispatch op w.outside).1.failure = none)
      (told : notice =
        .faulted (c.message.faulted failure c.address (o.now w.outside)) failure) :
      Forwards o errorQueue failure c w
        { context :=
            { c with message := c.message.faulted failure c.address (o.now w.outside) } }
        { table := w.table.clear c.message.id,
          outside := o.notified notice (o.dispatch op w.outside).2 }
        [.dispatched op none, .notified notice]
  | refused {op : Operation} {dispatchFailure : Failure}
      (copy : op = faultedOperation errorQueue c.address c.message failure (o.now w.outside))
      (refused : (o.dispatch op w.outside).1.failure = some dispatchFailure) :
      Forwards o errorQueue failure c w
        { context :=
            { c with message := c.message.faulted failure c.address (o.now w.outside) },
          failure := some dispatchFailure }
        { w with outside := (o.dispatch op w.outside).2 }
        [.dispatched op (some dispatchFailure), .critical forwardAlarm dispatchFailure]

/-- The ways of a delivery through the stage of forwarding. -/
inductive Delivers {σ : Type} (o : Outside σ) (handlers : List (Nat × String)) (bound : Nat)
    (mode : DecisionMode) (policy : Option DelayPolicy) (errorQueue : String) (c : Context)
    (w : World σ) : Passage → World σ → List Deed → Prop where
  | resumed {failure p w' ds} (later : mode = .onNextDelivery)
      (pending : w.table.pendingForward c.message.id = some failure)
      (forwards : Forwards o errorQueue failure c w p w' ds) :
      Delivers o handlers bound mode policy errorQueue c w p w'
        (.entered ReceivePipeline.errorForwardName c.message.id :: ds)
  | passed {p w' ds}
      (fresh : mode = .onNextDelivery → w.table.pendingForward c.message.id = none)
      (delays : Delays o handlers bound mode c w policy p w' ds) (fine : p.failure = none) :
      Delivers o handlers bound mode policy errorQueue c w p w'
        (.entered ReceivePipeline.errorForwardName c.message.id :: ds)
  | postponed {p w' ds failure} (later : mode = .onNextDelivery)
      (fresh : w.table.pendingForward c.message.id = none)
      (delays : Delays o handlers bound mode c w policy p w' ds)
      (failed : p.failure = some failure) :
      Delivers o handlers bound mode policy errorQueue c w { context := p.context.abort }
        { w' with table := (w'.table.record c.message.id failure true false).1 }
        (.entered ReceivePipeline.errorForwardName c.message.id :: ds)
  | forwarded {p w' ds failure p' w'' ds'} (now : mode = .atOnce)
      (delays : Delays o handlers bound mode c w policy p w' ds)
      (failed : p.failure = some failure)
      (forwards : Forwards o errorQueue failure p.context w' p' w'' ds') :
      Delivers o handlers bound mode policy errorQueue c w p' w''
        (.entered ReceivePipeline.errorForwardName c.message.id :: ds ++ ds')

section delivery
variable {σ : Type} {o : Outside σ} {handlers : List (Nat × String)} {bound : Nat}
  {mode : DecisionMode} {policy : Option DelayPolicy} {errorQueue : String} {failure : Failure}
  {c : Context} {w w' : World σ} {p : Passage} {ds : List Deed}

theorem exists_forwards (o : Outside σ) (errorQueue : String) (failure : Failure) (c : Context)
    (w : World σ) : ∃ p w' ds, Forwards o errorQueue failure c w p w' ds := by
  cases refused : (o.dispatch (faultedOperation errorQueue c.address c.message failure
      (o.now w.outside)) w.outside).1.failure with
  | none => exact ⟨_, _, _, .sent rfl refused rfl⟩
  | some dispatchFailure => exact ⟨_, _, _, .refused rfl refused⟩

theorem Forwards.course (forwards : Forwards o errorQueue failure c w p w' ds) :
    (Stage.forwardToErrorQueue errorQueue failure c).course o w = ⟨.done p, w', ds⟩ := by
  simp only [Stage.forwardToErrorQueue, Flow.course_now, Flow.course_dispatch]
  cases forwards with
  | sent copy accepted told =>
    subst copy told
    rw [faultedOperation] at accepted ⊢
    rw [accepted]
    rfl
  | refused copy refused =>
    subst copy
    rw [faultedOperation] at refused ⊢
    rw [refused]
    rfl

theorem Forwards.forgotten (forwards : Forwards o errorQueue failure c w p w' ds)
    (fine : p.failure = none) : w'.table.lookup c.message.id = none := by
  cases forwards with
  | sent copy accepted told => simp
  | refused copy refused => cases fine

theorem Forwards.aborted (forwards : Forwards o errorQueue failure c w p w' ds) :
    p.context.aborted = c.aborted := by
  cases forwards <;> rfl

theorem exists_delivers (quiet : ∀ text, (o.handleAll handlers c.message w.outside).verdict ≠
      .panicked text) (bound : Nat) (mode : DecisionMode) (policy : Option DelayPolicy)
    (errorQueue : String) :
    ∃ p w' ds, Delivers o handlers bound mode policy errorQueue c w p w' ds := by
  obtain ⟨p, w', ds, delays⟩ := exists_delays quiet bound mode policy
  cases mode with
  | atOnce =>
    cases failed : p.failure with
    | none => exact ⟨_, _, _, .passed (fun h => by cases h) delays failed⟩
    | some failure =>
      obtain ⟨p', w'', ds', forwards⟩ := exists_forwards o errorQueue failure p.context w'
      exact ⟨_, _, _, .forwarded rfl delays failed forwards⟩
  | onNextDelivery =>
    cases pending : w.table.pendingForward c.message.id with
    | some old =>
      obtain ⟨p', w'', ds', forwards⟩ := exists_forwards o errorQueue old c w
      exact ⟨_, _, _, .resumed rfl pending forwards⟩
    | none =>
      cases failed : p.failure with
      | none => exact ⟨_, _, _, .passed (fun _ => pending) delays failed⟩
      | some failure => exact ⟨_, _, _, .postponed rfl pending delays failed⟩

theorem exists_delivers_of_decided (handlers : List (Nat × String)) (bound : Nat)
    (errorQueue : String) (decided : ¬w.table.Undecided mode policy c.message.id) (o : Outside σ) :
    ∃ p w' ds, Delivers o handlers bound mode policy errorQueue c w p w' ds := by
  obtain ⟨later, pending⟩ := Classical.not_imp.1 decided
  subst later
  cases forward : w.table.pendingForward c.message.id with
  | some failure =>
    obtain ⟨p, w', ds, forwards⟩ := exists_forwards o errorQueue failure c w
    exact ⟨_, _, _, .resumed rfl forward forwards⟩
  | none =>
    cases policy with
    | none => exact absurd ⟨forward, .inl rfl⟩ pending
    | some asked =>
      cases delay : w.table.pendingDelay c.message.id with
      | none => exact absurd ⟨forward, .inr delay⟩ pending
      | some failure =>
        obtain ⟨p, w', ds, defers⟩ := exists_defers o .onNextDelivery asked failure c w
        have delays : Delays o handlers bound .onNextDelivery c w (some asked) p w' _ :=
          .resumed rfl delay defers
        cases failed : p.failure with
        | none => exact ⟨_, _, _, .passed (fun _ => forward) delays failed⟩
        | some refusal => exact ⟨_, _, _, .postponed rfl forward delays failed⟩

theorem course_errorForward_fresh (fresh : w.table.pendingForward c.message.id = none)
    (rest : Way) :
    (Stage.errorForward .onNextDelivery errorQueue rest c).course o w =
      (rest c >>= fun p => match p.failure with
        | none => pure p
        | some failure => Stage.postponeForward c.message.id failure p.context).course o w := by
  simp only [Stage.errorForward, Flow.course_lookup]
  cases known : w.table.lookup c.message.id with
  | none => rfl
  | some r =>
    obtain ⟨attempts, old, toErrorQueue, toDelay⟩ := r
    cases toErrorQueue with
    | false => rfl
    | true => simp [FailureTable.pendingForward, known] at fresh

theorem course_errorForward_pending (pending : w.table.pendingForward c.message.id = some failure)
    (rest : Way) :
    (Stage.errorForward .onNextDelivery errorQueue rest c).course o w =
      (Stage.forwardToErrorQueue errorQueue failure c).course o w := by
  simp only [Stage.errorForward, Flow.course_lookup]
  cases known : w.table.lookup c.message.id with
  | none => simp [FailureTable.pendingForward, known] at pending
  | some r =>
    obtain ⟨attempts, old, toErrorQueue, toDelay⟩ := r
    cases toErrorQueue with
    | false => simp [FailureTable.pendingForward, known] at pending
    | true =>
      simp only [FailureTable.pendingForward, known, Option.some.injEq] at pending
      subst pending
      rfl

def allStages (mode : DecisionMode) (policy : Option DelayPolicy) (errorQueue : String)
    (bound : Nat) (handlers : List (Nat × String)) : List Stage :=
  ⟨ReceivePipeline.errorForwardName, Stage.errorForward mode errorQueue⟩ ::
    retryStages mode policy bound handlers

theorem Delivers.course (delivers : Delivers o handlers bound mode policy errorQueue c w p w' ds) :
    (runStages (allStages mode policy errorQueue bound handlers) c).course o w =
      ⟨.done p, w', ds⟩ := by
  rw [allStages, course_runStages]
  cases delivers with
  | resumed later pending forwards =>
    subst later
    rw [course_errorForward_pending pending, forwards.course]
    rfl
  | passed fresh delays fine =>
    cases mode with
    | onNextDelivery =>
      rw [course_errorForward_fresh (fresh rfl), Flow.course_bind_done _ _ delays.course, fine]
      simp [Flow.course_pure]
    | atOnce =>
      simp only [Stage.errorForward]
      rw [Flow.course_bind_done _ _ delays.course, fine]
      simp [Flow.course_pure]
  | postponed later fresh delays failed =>
    subst later
    rw [course_errorForward_fresh fresh, Flow.course_bind_done _ _ delays.course, failed]
    simp [Stage.postponeForward, Flow.course_log, Flow.course_record, Flow.course_pure]
  | forwarded now delays failed forwards =>
    subst now
    simp only [Stage.errorForward]
    rw [Flow.course_bind_done _ _ delays.course, failed]
    simp [forwards.course]

theorem course_allStages_panicked
    (plain : w.table.Undecided mode policy c.message.id)
    {r : Handled σ} {text : String} (handled : o.handleAll handlers c.message w.outside = r)
    (panic : r.verdict = .panicked text) (errorQueue : String) (bound : Nat) :
    ∃ ds, (runStages (allStages mode policy errorQueue bound handlers) c).course o w =
        ⟨.panicked text, { w with outside := r.outside }, ds⟩ ∧
      ds.filter Deed.isAct = r.deeds.filter Deed.isAct := by
  obtain ⟨ds, inner, acts⟩ := course_retryStages_panicked (fun later => (plain later).2) handled
    panic bound
  refine ⟨.entered ReceivePipeline.errorForwardName c.message.id :: ds, ?_,
    by simp [acts, Deed.isAct]⟩
  rw [allStages, course_runStages]
  cases mode with
  | onNextDelivery =>
    rw [course_errorForward_fresh (plain rfl).1, Flow.course_bind_panicked _ _ inner]
    rfl
  | atOnce =>
    simp only [Stage.errorForward]
    rw [Flow.course_bind_panicked _ _ inner]
    rfl

end delivery
end Redelivery
