import Redelivery.Proofs.Processing.Deliveries

/-! Forwards that fail. Where a receive can be aborted, a message whose way to the error queue was
barred keeps its record. When it is given back, its forwarding is taken up again and nothing else is
done: what is sent then is what was to be sent the first time, the time of the failure aside. -/
namespace Redelivery

structure Operation.SameButTime (op op' : Operation) : Prop where
  destination : op.destination = op'.destination
  delays : op.delays = op'.delays
  id : op.message.id = op'.message.id
  body : op.message.body = op'.message.body
  headers : ∀ key, key ≠ Headers.timeOfFailure →
    op.message.headers.get? key = op'.message.headers.get? key

theorem faultedOperation_sameButTime (errorQueue address : String) (m : Incoming)
    (failure : Failure) (time time' : Instant) :
    (faultedOperation errorQueue address m failure time).SameButTime
      (faultedOperation errorQueue address m failure time') where
  destination := rfl
  delays := rfl
  id := by simp only [faultedOperation, Incoming.toOutgoing, Incoming.faulted]
  body := by simp only [faultedOperation, Incoming.toOutgoing, Incoming.faulted]
  headers := by
    intro key untimed
    simp only [faultedOperation, Incoming.toOutgoing, Incoming.faulted, Headers.stampFailure,
      Headers.get?_erase, Headers.get?_insert, if_neg untimed]

theorem FailureTable.exists_of_pendingForward {t : FailureTable} {id : String} {failure : Failure}
    (pending : t.pendingForward id = some failure) :
    ∃ record, t.lookup id = some record ∧ record.toErrorQueue = true ∧ record.failure = failure := by
  unfold pendingForward at pending
  split at pending
  · rename_i known
    exact ⟨_, known, rfl, Option.some.inj pending⟩
  · cases pending

theorem FailureTable.pendingForward_of_lookup {t : FailureTable} {id : String}
    {record : FailureRecord} (known : t.lookup id = some record)
    (marked : record.toErrorQueue = true) : t.pendingForward id = some record.failure := by
  obtain ⟨attempts, failure, toErrorQueue, toDelay⟩ := record
  cases marked
  rw [pendingForward, known]

namespace ReceivePipeline
variable {σ : Type} {o : Outside σ} {s : Settings} {given : Option DelayPolicy}
  {own : List Stage} {p : ReceivePipeline} {m : Incoming} {w v : World σ} {failure : Failure}

/-- What a call does that takes up the forwarding of a message, which was first attempted with some
operation. -/
inductive TakesUp (o : Outside σ) (s : Settings) (m : Incoming) (failure : Failure)
    (first : Operation) (w : World σ) : Course σ Processed → Prop where
  | refused {op : Operation} {refusal : Failure} (again : op.SameButTime first)
      (refused : (o.dispatch op w.outside).1.failure = some refusal) :
      TakesUp o s m failure first w
        ⟨.done (.failed refusal), { w with outside := (o.dispatch op w.outside).2 },
          [.entered errorForwardName m.id, .dispatched op (some refusal),
            .critical forwardAlarm refusal]⟩
  | sent {copy : Incoming} {op : Operation} {notice : Notification}
      (again : op.SameButTime first) (carried : op.message = copy.toOutgoing)
      (accepted : (o.dispatch op w.outside).1.failure = none)
      (told : notice = .faulted copy failure) :
      TakesUp o s m failure first w
        ⟨.done (.settled 1),
          { table := w.table.clear m.id,
            outside := o.notified notice (o.dispatch op w.outside).2 },
          [.entered errorForwardName m.id, .dispatched op none, .notified notice]⟩

theorem TakesUp.kept {first : Operation} {run : Course σ Processed} {refusal : Failure}
    (takes : TakesUp o s m failure first w run) (failed : run.ended = .done (.failed refusal)) :
    run.world.table = w.table := by
  cases takes with
  | refused again refused => rfl
  | sent again carried accepted told => cases failed

/-- A delivery of a message whose forwarding does not wait does not fail, whatever the endpoint's own
stages are. -/
theorem unfailed_of_fresh (built : build s given own = .ok p) (later : modeOf s = .onNextDelivery)
    (fresh : v.table.pendingForward m.id = none) (o : Outside σ) (failure : Failure) :
    ((p.invoke m).course o v).ended ≠ .done (.failed failure) := by
  intro failed
  obtain ⟨rest, stages⟩ := exists_stages built
  have way := course_runStages o
    ⟨errorForwardName, Stage.errorForward (modeOf s) s.errorQueue⟩ rest (p.entry m) v
  rw [← stages, later, course_errorForward_fresh (c := p.entry m) fresh] at way
  cases first : (runStages rest (p.entry m)).course o v with
  | mk ended v' ds =>
    cases ended with
    | panicked text =>
      rw [Flow.course_bind_panicked _ _ first] at way
      rw [course_invoke_panicked way] at failed
      cases failed
    | done passage =>
      rw [Flow.course_bind_done _ _ first] at way
      cases cause : passage.failure with
      | none =>
        rw [cause] at way
        rw [course_invoke way, Passage.delivery, cause] at failed
        cases marked : passage.context.aborted <;> simp [marked] at failed
      | some cause' =>
        rw [cause] at way
        rw [course_invoke way] at failed
        cases failed

theorem takesUp_of_pending (built : build s given own = .ok p)
    (later : modeOf s = .onNextDelivery) (pending : w.table.pendingForward m.id = some failure)
    (o : Outside σ) (time : Instant) :
    TakesUp o s m failure (faultedOperation s.errorQueue s.address m failure time) w
      ((p.process m).course o w) := by
  obtain ⟨passage, w', ds, forwards, course⟩ := course_invoke_pending built later pending o
  have here : (p.entry m).address = s.address := address_of_build built
  have again : (faultedOperation s.errorQueue (p.entry m).address m failure
      (o.now w.outside)).SameButTime (faultedOperation s.errorQueue s.address m failure time) := by
    rw [here]
    exact faultedOperation_sameButTime _ _ _ _ _ _
  rw [process, show Whole.max32 = 4294967294 + 1 from rfl]
  cases forwards with
  | sent copy accepted told =>
    subst copy
    rw [course_processWithin_completed _ _ course]
    exact .sent again rfl accepted told
  | refused copy refused =>
    subst copy
    rw [course_processWithin_failed _ _ course]
    exact .refused again refused

/-- A call that failed left a record that says to forward, exactly as it was before the attempt. -/
theorem refused_of_failed (built : build s given own = .ok p) (later : modeOf s = .onNextDelivery)
    (failed : ((p.process m).course o w).ended = .done (.failed failure)) :
    ∃ before v record op, Leads o p m w before v ∧
      v.table.lookup m.id = some record ∧ record.toErrorQueue = true ∧
      op = faultedOperation s.errorQueue s.address m record.failure (o.now v.outside) ∧
      (p.process m).course o w =
        ⟨.done (.failed failure), { v with outside := (o.dispatch op v.outside).2 },
          before.flatMap (·.deeds) ++ [.entered errorForwardName m.id,
            .dispatched op (some failure), .critical forwardAlarm failure]⟩ := by
  obtain ⟨before, v, v', ds, leads, last, run⟩ := leads_of_failed failed
  cases waits : v.table.pendingForward m.id with
  | none => exact absurd (by rw [last]) (unfailed_of_fresh (m := m) built later waits o failure)
  | some cause =>
    obtain ⟨record, known, marked, rfl⟩ := FailureTable.exists_of_pendingForward waits
    obtain ⟨passage, w', ds', forwards, course⟩ := course_invoke_pending built later waits o
    have here : (p.entry m).address = s.address := address_of_build built
    cases forwards with
    | sent copy accepted told => cases last.symm.trans course
    | refused copy refused =>
      cases last.symm.trans course
      rw [here] at copy
      exact ⟨before, v, record, _, leads, known, marked, copy, run⟩

/-- A message whose forwarding failed, and that is given back as long as it fails, is forwarded by
each later call and by nothing else it does, until one of them succeeds. -/
theorem forward_resumed (built : build s given own = .ok p)
    (abortable : s.mode.canAbort = true) {k : Nat} (calls : 0 < k) {w : Nat → World σ}
    (failed : ∀ i < k, ∃ refusal,
      ((p.process m).course o (w i)).ended = .done (.failed refusal))
    (kept : ∀ i < k, (w (i + 1)).table.lookup m.id =
      ((p.process m).course o (w i)).world.table.lookup m.id) :
    ∃ before v record first refusal, Leads o p m (w 0) before v ∧
      v.table.lookup m.id = some record ∧ record.toErrorQueue = true ∧
      first = faultedOperation s.errorQueue s.address m record.failure (o.now v.outside) ∧
      (p.process m).course o (w 0) =
        ⟨.done (.failed refusal), { v with outside := (o.dispatch first v.outside).2 },
          before.flatMap (·.deeds) ++ [.entered errorForwardName m.id,
            .dispatched first (some refusal), .critical forwardAlarm refusal]⟩ ∧
      ∀ i, 0 < i → i ≤ k → (w i).table.lookup m.id = some record ∧
        TakesUp o s m record.failure first (w i) ((p.process m).course o (w i)) := by
  have later := modeOf_abortable abortable
  obtain ⟨refusal, ended⟩ := failed 0 calls
  obtain ⟨before, v, record, first, leads, known, marked, rfl, run⟩ :=
    refused_of_failed built later ended
  refine ⟨before, v, record, _, refusal, leads, known, marked, rfl, run, ?_⟩
  have takes (i : Nat) (known : (w i).table.lookup m.id = some record) :
      TakesUp o s m record.failure
        (faultedOperation s.errorQueue s.address m record.failure (o.now v.outside)) (w i)
        ((p.process m).course o (w i)) :=
    takesUp_of_pending built later (FailureTable.pendingForward_of_lookup known marked) o _
  -- The record is what carries the forward from call to call: no failed call changes it.
  have recorded (i : Nat) (within : i < k) : (w (i + 1)).table.lookup m.id = some record := by
    induction i with
    | zero =>
      rw [kept 0 within, run]
      exact known
    | succ i ih =>
      have known := ih (by omega)
      obtain ⟨refusal, ended⟩ := failed (i + 1) within
      rw [kept (i + 1) within, (takes (i + 1) known).kept ended]
      exact known
  intro i later within
  have known := recorded (i - 1) (by omega)
  rw [show i - 1 + 1 = i by omega] at known
  exact ⟨known, takes i known⟩

/-- A message that is given back whenever its processing failed: the world before each call. -/
def givenBack (o : Outside σ) (p : ReceivePipeline) (m : Incoming) (w : World σ) : Nat → World σ
  | 0 => w
  | calls + 1 => ((p.process m).course o (givenBack o p m w calls)).world

def barred : Settings :=
  { address := "orders", immediateRetries := 0, delayed := { enabled := false } }

def barredPipeline : ReceivePipeline :=
  { stages := recoverability barred none ++ handlerStages [(0, "Billing")], address := "orders" }

def barredWorld : Nat → World CastState :=
  givenBack Cast.stumbling.outside barredPipeline default ⟨.ofCapacity 1000, {}⟩

theorem barred_forward_resumed :
    let o := Cast.stumbling.outside
    let run (calls : Nat) := (barredPipeline.process default).course o (barredWorld calls)
    build barred none (handlerStages [(0, "Billing")]) = .ok barredPipeline ∧
    barred.mode.canAbort = true ∧
    (∀ i < 2, ∃ refusal, (run i).ended = .done (.failed refusal)) ∧
    (run 2).ended = .done (.settled 1) ∧
    ∃ before v record first refusal, Leads o barredPipeline default (barredWorld 0) before v ∧
      v.table.lookup "" = some record ∧ record.toErrorQueue = true ∧
      first = faultedOperation "error" "orders" default record.failure (o.now v.outside) ∧
      run 0 = ⟨.done (.failed refusal), { v with outside := (o.dispatch first v.outside).2 },
        before.flatMap (·.deeds) ++ [.entered errorForwardName "",
          .dispatched first (some refusal), .critical forwardAlarm refusal]⟩ ∧
      ∀ i, 0 < i → i ≤ 2 → (barredWorld i).table.lookup "" = some record ∧
        TakesUp o barred default record.failure first (barredWorld i) (run i) := by
  have built : build barred none (handlerStages [(0, "Billing")]) = .ok barredPipeline :=
    build_ok (s := barred) rfl rfl none (handlerStages [(0, "Billing")])
  have failed : ∀ i < 2, ∃ refusal, ((barredPipeline.process default).course
      Cast.stumbling.outside (barredWorld i)).ended = .done (.failed refusal) := by
    intro i within
    match i with
    | 0 => exact ⟨_, rfl⟩
    | 1 => exact ⟨_, rfl⟩
  have kept : ∀ i < 2, (barredWorld (i + 1)).table.lookup (default : Incoming).id =
      ((barredPipeline.process default).course Cast.stumbling.outside
        (barredWorld i)).world.table.lookup (default : Incoming).id := by
    intro i within
    rw [barredWorld, givenBack]
  exact ⟨built, rfl, failed, rfl, forward_resumed built rfl (by decide) failed kept⟩

end ReceivePipeline
end Redelivery
