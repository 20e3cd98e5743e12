import Redelivery.Pipeline.ImmediateRetries
import Redelivery.Proofs.Delivery.Handlers
import Redelivery.Proofs.FailureTable.Lookups

/-! One attempt at a message: the handlers under the bound of immediate retries. An attempt
succeeds, or its failure is absorbed, passed on after all immediate retries, or passed on at once
because the body cannot be read. -/
namespace Redelivery

def immediateNotice (attempts : Nat) (m : Incoming) (failure : Failure) : Notification :=
  .retry (attempts + 1) .zero true m failure

def Incoming.retriedAtOnce (m : Incoming) (attempts : Nat) : Incoming :=
  m.setHeader Headers.immediateRetries (Whole.text attempts)

section settling
variable {σ : Type} {o : Outside σ} {bound : Nat} {p : Passage} {failure : Failure}
  (id : String) (w : World σ)

def settleFailure (bound : Nat) (id : String) (attempts : Nat) (p : Passage) : Flow Passage :=
  match p.failure with
  | none => do
    Flow.clear id
    return p
  | some failure =>
    if failure.isRetryable then
      if givesUp bound attempts then Stage.immediateRetriesUsedUp id attempts failure p.context
      else Stage.retryAtOnce id bound attempts failure p.context
    else return p

theorem course_settleFailure_fine (attempts : Nat) (fine : p.failure = none) :
    (settleFailure bound id attempts p).course o w =
      ⟨.done p, { w with table := w.table.clear id }, []⟩ := by
  rw [settleFailure, fine]
  rfl

theorem course_settleFailure_unreadable (attempts : Nat) (failed : p.failure = some failure)
    (hopeless : failure.isRetryable = false) :
    (settleFailure bound id attempts p).course o w = ⟨.done p, w, []⟩ := by
  simp only [settleFailure, failed, hopeless]
  rfl

theorem course_settleFailure_left {attempts : Nat} (failed : p.failure = some failure)
    (retryable : failure.isRetryable = true) (left : attempts < bound) :
    (settleFailure bound id attempts p).course o w =
      ⟨.done { context := p.context.abort },
        { table := (w.table.record id failure false false).1,
          outside := o.notified (immediateNotice attempts p.context.message failure) w.outside },
        [.notified (immediateNotice attempts p.context.message failure)]⟩ := by
  have more : givesUp bound attempts = false := decide_eq_false (Nat.not_le_of_lt left)
  simp only [settleFailure, failed, retryable, more]
  rfl

theorem course_settleFailure_spent {attempts : Nat} (failed : p.failure = some failure)
    (retryable : failure.isRetryable = true) (spent : bound ≤ attempts) :
    (settleFailure bound id attempts p).course o w =
      ⟨.done
        { context := { p.context with message := p.context.message.retriedAtOnce attempts },
          failure := some failure },
        { w with table := w.table.clear id }, []⟩ := by
  have enough : givesUp bound attempts = true := decide_eq_true spent
  simp only [settleFailure, failed, retryable, enough]
  rfl

variable {rest : Way} {c : Context} {w w' : World σ} {ds : List Deed}

theorem course_immediateRetries_done (bound : Nat)
    (inner : (rest c).course o w = ⟨.done p, w', ds⟩) :
    (Stage.immediateRetries bound rest c).course o w =
      ((settleFailure bound c.message.id (w.table.attempts c.message.id) p).course o w').after
        ds := by
  simp only [Stage.immediateRetries, Flow.course_lookup]
  exact Flow.course_bind_done _ _ inner _

theorem course_immediateRetries_stopped (bound : Nat) {text : String}
    (inner : (rest c).course o w = ⟨.panicked text, w', ds⟩) :
    (Stage.immediateRetries bound rest c).course o w = ⟨.panicked text, w', ds⟩ := by
  simp only [Stage.immediateRetries, Flow.course_lookup]
  exact Flow.course_bind_panicked _ _ inner _

end settling

/-- The four ways of an attempt, each with the passage and the world it leaves and its deeds. -/
inductive Tries {σ : Type} (o : Outside σ) (handlers : List (Nat × String)) (bound : Nat)
    (c : Context) (w : World σ) : Passage → World σ → List Deed → Prop where
  | succeeded {r : Handled σ} (handled : o.handleAll handlers c.message w.outside = r)
      (done : r.verdict = .done) :
      Tries o handlers bound c w { context := { c with message := r.message } }
        { table := w.table.clear c.message.id, outside := r.outside } r.deeds
  | absorbed {r : Handled σ} {failure : Failure} {notice : Notification}
      (handled : o.handleAll handlers c.message w.outside = r)
      (failed : r.verdict = .failed failure) (retryable : failure.isRetryable = true)
      (left : w.table.attempts c.message.id < bound)
      (told : notice = immediateNotice (w.table.attempts c.message.id) r.message failure) :
      Tries o handlers bound c w { context := { c with message := r.message, aborted := true } }
        { table := (w.table.record c.message.id failure false false).1,
          outside := o.notified notice r.outside }
        (r.deeds ++ [.notified notice])
  | usedUp {r : Handled σ} {failure : Failure}
      (handled : o.handleAll handlers c.message w.outside = r)
      (failed : r.verdict = .failed failure) (retryable : failure.isRetryable = true)
      (spent : bound ≤ w.table.attempts c.message.id) :
      Tries o handlers bound c w
        { context :=
            { c with message := r.message.retriedAtOnce (w.table.attempts c.message.id) },
          failure := some failure }
        { table := w.table.clear c.message.id, outside := r.outside } r.deeds
  | unreadable {r : Handled σ} {failure : Failure}
      (handled : o.handleAll handlers c.message w.outside = r)
      (failed : r.verdict = .failed failure) (hopeless : failure.isRetryable = false) :
      Tries o handlers bound c w
        { context := { c with message := r.message }, failure := some failure }
        { w with outside := r.outside } r.deeds

section attempt
variable {σ : Type} {o : Outside σ} {handlers : List (Nat × String)} {bound : Nat} {c : Context}
  {w w' : World σ} {p : Passage} {ds : List Deed}

theorem exists_tries (quiet : ∀ text, (o.handleAll handlers c.message w.outside).verdict ≠
      .panicked text) (bound : Nat) :
    ∃ p w' ds, Tries o handlers bound c w p w' ds := by
  cases verdict : (o.handleAll handlers c.message w.outside).verdict with
  | done => exact ⟨_, _, _, .succeeded rfl verdict⟩
  | panicked text => exact absurd verdict (quiet text)
  | failed failure =>
    cases retryable : failure.isRetryable with
    | false => exact ⟨_, _, _, .unreadable rfl verdict retryable⟩
    | true =>
      by_cases left : w.table.attempts c.message.id < bound
      · exact ⟨_, _, _, .absorbed rfl verdict retryable left rfl⟩
      · exact ⟨_, _, _, .usedUp rfl verdict retryable (Nat.le_of_not_lt left)⟩

theorem Tries.course (tries : Tries o handlers bound c w p w' ds) :
    (Stage.immediateRetries bound (runStages (handlerStages handlers)) c).course o w =
      ⟨.done p, w', ds⟩ := by
  have inner := course_handlers o handlers c w
  cases tries with
  | succeeded handled done =>
    subst handled
    simp only [done, HandlerOutcome.ending] at inner
    rw [course_immediateRetries_done bound inner, course_settleFailure_fine _ _ _ rfl]
    simp
  | absorbed handled failed retryable left told =>
    subst handled
    subst told
    simp only [failed, HandlerOutcome.ending] at inner
    rw [course_immediateRetries_done bound inner,
      course_settleFailure_left _ _ rfl retryable left]
    rfl
  | usedUp handled failed retryable spent =>
    subst handled
    simp only [failed, HandlerOutcome.ending] at inner
    rw [course_immediateRetries_done bound inner,
      course_settleFailure_spent _ _ rfl retryable spent]
    simp
  | unreadable handled failed hopeless =>
    subst handled
    simp only [failed, HandlerOutcome.ending] at inner
    rw [course_immediateRetries_done bound inner,
      course_settleFailure_unreadable _ _ _ rfl hopeless]
    simp

theorem course_immediateRetries_panicked {r : Handled σ} {text : String}
    (handled : o.handleAll handlers c.message w.outside = r) (panic : r.verdict = .panicked text)
    (bound : Nat) :
    (Stage.immediateRetries bound (runStages (handlerStages handlers)) c).course o w =
      ⟨.panicked text, { w with outside := r.outside }, r.deeds⟩ := by
  have inner := course_handlers o handlers c w
  subst handled
  simp only [panic, HandlerOutcome.ending] at inner
  exact course_immediateRetries_stopped bound inner

theorem Tries.keeps (tries : Tries o handlers bound c w p w' ds) :
    p.context.message.id = c.message.id ∧ p.context.address = c.address := by
  cases tries with
  | succeeded handled done =>
    subst handled
    exact ⟨handleAll_id o handlers _ _, rfl⟩
  | absorbed handled failed retryable left told =>
    subst handled
    exact ⟨handleAll_id o handlers _ _, rfl⟩
  | usedUp handled failed retryable spent =>
    subst handled
    exact ⟨handleAll_id o handlers c.message w.outside, rfl⟩
  | unreadable handled failed hopeless =>
    subst handled
    exact ⟨handleAll_id o handlers _ _, rfl⟩

theorem Tries.aborted (tries : Tries o handlers bound c w p w' ds) {failure : Failure}
    (failed : p.failure = some failure) : p.context.aborted = c.aborted := by
  cases tries with
  | succeeded handled done => cases failed
  | absorbed handled verdict retryable left told => cases failed
  | usedUp handled verdict retryable spent => rfl
  | unreadable handled verdict hopeless => rfl

end attempt
end Redelivery
