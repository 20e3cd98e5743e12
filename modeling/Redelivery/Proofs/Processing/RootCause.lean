import Redelivery.Proofs.Processing.SentAfterFailure

/-! What the error queue is told. The headers of a forwarded message describe a failure, and the
notice of the forwarding carries it: the one with which the last failing handler ended, as long as
everything could be sent. After a delayed copy could not be sent, both tell of that instead. -/
namespace Redelivery

/-- Headers that describe a failure, the stage that raised it included if one is known. -/
structure Headers.Describe (h : Headers) (failure : Failure) : Prop where
  exceptionType : h.get? Headers.exceptionType = some failure.exceptionType
  message : h.get? Headers.exceptionMessage = some failure.text
  stackTrace : h.get? Headers.exceptionStackTrace = some failure.stackTrace
  source : ∀ stage, failure.stage? = some stage → h.get? Headers.exceptionSource = some stage

theorem describe_faulted (m : Incoming) (failure : Failure) (failedQueue : String)
    (time : Instant) : (m.faulted failure failedQueue time).headers.Describe failure := by
  have stamped {key value : String} (other : key ≠ Headers.retries)
      (known : (failure.stamps failedQueue time).lookup key = some value) :
      (m.faulted failure failedQueue time).headers.get? key = some value := by
    rw [Incoming.get?_faulted, if_neg other, known, Option.some_or]
  constructor
  case source =>
    intro stage known
    refine stamped (by decide) ?_
    rw [Failure.stamps, known]
    rfl
  all_goals
    refine stamped (by decide) ?_
    rw [Failure.stamps]
    cases failure.stage? <;> rfl

namespace ReceivePipeline
variable {σ : Type} {o : Outside σ} {handlers : List (Nat × String)} {s : Settings}
  {given : Option DelayPolicy} {p : ReceivePipeline} {m : Incoming} {w : World σ}
  {before after : List Deed} {deed : Deed}

/-- Wherever a message goes to the error queue, and wherever that is told, what is said to have
failed is the last failure of a handler, unless something could not be sent before. -/
theorem error_queue_blames (built : build s given (handlerStages handlers) = .ok p)
    (unrecorded : w.table.lookup m.id = none) {allowed : Nat}
    (split : ((p.processWithin m allowed 0).course o w).deeds = before ++ deed :: after) :
    (∀ op refusal, deed = .dispatched op refusal → op.IsForward s →
      ∃ cause failure, lastFailure before = some cause ∧ Blames before cause failure ∧
        op.message.headers.Describe failure) ∧
    ∀ copy failure, deed = .notified (.faulted copy failure) →
      ∃ cause, lastFailure before = some cause ∧ Blames before cause failure := by
  have each := processWithin_partings built unrecorded o allowed
  rw [split] at each
  have parting := each.here
  constructor
  · rintro op refusal rfl forward
    cases parting with
    | copy time _ chosen granted last retryable carries => cases forward.2
    | forward time _ last blames carries =>
      exact ⟨_, _, last, blames, describe_faulted _ _ _ _⟩
    | other stays => cases stays
  · rintro copy failure rfl
    cases parting with
    | told _ last blames => exact ⟨_, last, blames⟩
    | other stays => cases stays

section unsent

def unsentSettings (delayed : Bool) : Settings :=
  { address := "sales", mode := .unprotected, immediateRetries := 0,
    delayed := { enabled := delayed, retries := 1, increase := .ofSeconds 1 } }

def unsent : Cast where
  handlers := [{
    name := "OrderHandler"
    script := {
      after := { failure := some { source := .wrapped Failure.untypedReport { text := "boom" } } } } }]
  dispatches := [.refuse "down"]
  clock := ⟨0, 0⟩

def unsentPipeline (delayed : Bool) : ReceivePipeline :=
  { stages := recoverability (unsentSettings delayed) none ++ handlerStages [(0, "OrderHandler")]
    address := "sales" }

def unsentDeeds (delayed : Bool) : List Deed :=
  (((unsentPipeline delayed).processWithin (.received "m1" .empty []) Whole.max32 0).course
    unsent.outside ⟨.ofCapacity 1000, {}⟩).deeds

theorem unsent_built (delayed : Bool) :
    build (unsentSettings delayed) none (handlerStages [(0, "OrderHandler")]) =
      .ok (unsentPipeline delayed) := by
  cases delayed with
  | true => exact build_ok (s := unsentSettings true) rfl rfl none _
  | false => exact build_ok (s := unsentSettings false) rfl rfl none _

/-- Without delayed retries it is the handler's failure that goes to the error queue. -/
theorem unsent_forward_blames : ∃ before op refusal after,
    unsentDeeds false = before ++ .dispatched op refusal :: after ∧
    op.IsForward (unsentSettings false) ∧
    ∃ cause failure, lastFailure before = some cause ∧ failure.sameAs cause = true ∧
      op.message.headers.Describe failure := by
  have first : ∃ before op refusal after,
      unsentDeeds false = before ++ .dispatched op refusal :: after ∧
      op.IsForward (unsentSettings false) ∧ (tally before).refused = [] :=
    ⟨[_, _, _, _], _, _, _, rfl, ⟨rfl, rfl⟩, rfl⟩
  obtain ⟨before, op, refusal, after, split, forward, unrefused⟩ := first
  have blamed := error_queue_blames (unsent_built false) rfl split
  obtain ⟨cause, failure, last, blames, described⟩ := blamed.1 op refusal rfl forward
  exact ⟨before, op, refusal, after, split, forward, cause, failure, last,
    blames.unrefused unrefused, described⟩

/-- The error queue is told that the delayed copy could not be sent, and not why the handler
failed. -/
theorem unsent_copy_blamed :
    build (unsentSettings true) none (handlerStages [(0, "OrderHandler")]) =
      .ok (unsentPipeline true) ∧
    (FailureTable.ofCapacity 1000).lookup "m1" = none ∧
    ∃ before op copy failure cause,
      unsentDeeds true = before ++ [.dispatched op none, .notified (.faulted copy failure)] ∧
      op.IsForward (unsentSettings true) ∧
      lastFailure before = some cause ∧ cause.text = "boom" ∧
      op.message.headers.get? Headers.exceptionMessage =
        some "failed to dispatch message 'm1' to 'sales': down" ∧
      failure.sameAs cause = false :=
  ⟨unsent_built true, rfl, [_, _, _, _, _, _, _, _], _, _, _, _, rfl, ⟨rfl, rfl⟩, rfl, rfl, rfl, rfl⟩

end unsent
end ReceivePipeline
end Redelivery
