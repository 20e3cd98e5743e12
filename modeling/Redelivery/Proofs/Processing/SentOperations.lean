import Redelivery.Proofs.Processing.SentAfterFailure

/-! What is sent, exactly. Whatever the handlers did to a message, what leaves is the message as
received: a delayed copy differs from it by the number of the retry and the time of the first one,
and a message for the error queue by the description of its failure. Where a receive cannot be
aborted, both also tell the number of immediate retries, if they were used up. -/
namespace Redelivery

/-- The headers on which a message builds that is sent after a failure. -/
def Settings.sentHeaders (s : Settings) (m : Incoming) (cause : Failure) : Headers :=
  match ReceivePipeline.modeOf s with
  | .onNextDelivery => m.headers
  | .atOnce =>
    if cause.isRetryable then
      m.headers.insert Headers.immediateRetries (Whole.text s.immediateRetries.toNat)
    else m.headers

structure Operation.CarriesCopy (op : Operation) (s : Settings) (m : Incoming) (base : Headers)
    (delay : Duration) : Prop where
  destination : op.destination = s.address
  delays : op.delays = [delay]
  id : op.message.id = m.id
  body : op.message.body = m.originalBody
  headers : ∃ time : Instant, ∀ key, op.message.headers.get? key =
    if key = Headers.retries then some (Whole.text (min (m.headers.retryCount + 1) Whole.max32))
    else if key = Headers.retriesTimestamp then
      some ((m.headers.get? Headers.retriesTimestamp).getD time.wireText)
    else base.get? key

structure Operation.CarriesFault (op : Operation) (s : Settings) (m : Incoming) (base : Headers)
    (failure : Failure) : Prop where
  destination : op.destination = s.errorQueue
  delays : op.delays = []
  id : op.message.id = m.id
  body : op.message.body = m.originalBody
  headers : ∃ time : Instant, ∀ key, op.message.headers.get? key =
    if key = Headers.retries then none
    else ((failure.stamps s.address time).lookup key).or (base.get? key)

section cargo
variable {σ : Type} {o : Outside σ} {handlers : List (Nat × String)} {s : Settings}
  {m shown : Incoming} {cause : Failure}

theorem get?_sentHeaders (s : Settings) (m : Incoming) (cause : Failure) {key : String}
    (other : key ≠ Headers.immediateRetries) :
    (s.sentHeaders m cause).get? key = m.headers.get? key := by
  unfold Settings.sentHeaders
  split
  · rfl
  · split
    · rw [Headers.get?_insert, if_neg other]
    · rfl

theorem Carries.sentHeaders (carries : Carries o handlers s m cause shown)
    (keeps : s.mode.canAbort = false → o.KeepsHeaders handlers) :
    shown.headers = s.sentHeaders m cause := by
  unfold Settings.sentHeaders
  cases mode : ReceivePipeline.modeOf s with
  | onNextDelivery => rw [carries.later mode]
  | atOnce =>
    have unabortable : s.mode.canAbort = false :=
      Bool.eq_false_iff.2 fun abortable =>
        absurd (ReceivePipeline.modeOf_abortable abortable) (by simp [mode])
    exact carries.now mode (keeps unabortable)

theorem Carries.copy (carries : Carries o handlers s m cause shown)
    (keeps : s.mode.canAbort = false → o.KeepsHeaders handlers) (delay : Duration)
    (time : Instant) :
    (delayedOperation s.address shown delay time).CarriesCopy s m (s.sentHeaders m cause) delay where
  destination := rfl
  delays := rfl
  id := carries.id
  body := carries.originalBody
  headers := by
    have headers := carries.sentHeaders keeps
    have other : Headers.retriesTimestamp ≠ Headers.retries := by decide
    have stamped := get?_sentHeaders s m cause (show Headers.retriesTimestamp ≠ _ by decide)
    have counted : (s.sentHeaders m cause).retryCount = m.headers.retryCount := by
      have written := get?_sentHeaders s m cause (show Headers.retries ≠ _ by decide)
      rw [Headers.retryCount, written, Headers.retryCount]
    refine ⟨time, fun key => ?_⟩
    simp only [delayedOperation, Stage.delayedCopy, Incoming.toOutgoing, Incoming.revert, headers,
      Headers.get?_insertIfNew, Headers.get?_insert, if_neg other, stamped, Headers.nextRetry, counted]
    by_cases number : key = Headers.retries
    · simp [number, other.symm]
    · by_cases timestamp : key = Headers.retriesTimestamp
      · subst timestamp
        cases known : m.headers.get? Headers.retriesTimestamp with
        | none => simp [other]
        | some old => simp [other, stamped, known]
      · simp [number, timestamp]

theorem Carries.fault (carries : Carries o handlers s m cause shown)
    (keeps : s.mode.canAbort = false → o.KeepsHeaders handlers) (failure : Failure)
    (time : Instant) :
    (faultedOperation s.errorQueue s.address shown failure time).CarriesFault s m
      (s.sentHeaders m cause) failure where
  destination := rfl
  delays := rfl
  id := carries.id
  body := carries.originalBody
  headers := by
    refine ⟨time, fun key => ?_⟩
    rw [← carries.sentHeaders keeps]
    exact Incoming.get?_faulted shown failure s.address time key

end cargo

namespace ReceivePipeline
variable {σ : Type} {o : Outside σ} {handlers : List (Nat × String)} {s : Settings}
  {given : Option DelayPolicy} {p : ReceivePipeline} {m : Incoming} {w : World σ}
  {before after : List Deed} {op : Operation} {refusal : Option Failure}

/-- All that processing a message sends, taken or refused: a delayed copy as the policy granted it,
or a forward that reports a failure. -/
theorem dispatched_cargo (built : build s given (handlerStages handlers) = .ok p)
    (unrecorded : w.table.lookup m.id = none)
    (keeps : s.mode.canAbort = false → o.KeepsHeaders handlers) {allowed : Nat}
    (split : ((p.processWithin m allowed 0).course o w).deeds =
      before ++ .dispatched op refusal :: after) :
    ∃ cause, lastFailure before = some cause ∧
      ((∃ asked q delay, policyOf s given = some asked ∧
          .consulted asked q (some delay) ∈ before ∧ cause.isRetryable = true ∧
          op.CarriesCopy s m (s.sentHeaders m cause) delay) ∨
        ∃ failure, Blames before cause failure ∧
          op.CarriesFault s m (s.sentHeaders m cause) failure) := by
  have each := processWithin_partings built unrecorded o allowed
  rw [split] at each
  cases each.here with
  | copy time _ chosen granted last retryable carries =>
    exact ⟨_, last, .inl ⟨_, _, _, chosen, granted, retryable, carries.copy keeps _ time⟩⟩
  | forward time _ last blames carries =>
    exact ⟨_, last, .inr ⟨_, blames, carries.fault keeps _ time⟩⟩
  | other stays => cases stays

/-- Settings under which a failure is decided about at once, and delayed retries begin with it. -/
def prompt : Settings := { address := "orders", mode := .unprotected, immediateRetries := 0 }

def promptPipeline : ReceivePipeline :=
  { stages := recoverability prompt none ++ handlerStages [(0, "Billing")], address := "orders" }

theorem prompt_cargo :
    prompt.mode.canAbort = false ∧ Cast.stumbling.outside.KeepsHeaders [(0, "Billing")] ∧
    ∃ before op refusal after cause,
      ((promptPipeline.processWithin default 3 0).course Cast.stumbling.outside
        ⟨.ofCapacity 1000, {}⟩).deeds = before ++ .dispatched op refusal :: after ∧
      lastFailure before = some cause ∧
      ((∃ asked q delay, policyOf prompt none = some asked ∧
          .consulted asked q (some delay) ∈ before ∧ cause.isRetryable = true ∧
          op.CarriesCopy prompt default (prompt.sentHeaders default cause) delay) ∨
        ∃ failure, Blames before cause failure ∧
          op.CarriesFault prompt default (prompt.sentHeaders default cause) failure) := by
  have built : build prompt none (handlerStages [(0, "Billing")]) = .ok promptPipeline :=
    build_ok (s := prompt) rfl rfl none (handlerStages [(0, "Billing")])
  have first : ∃ before op refusal after,
      ((promptPipeline.processWithin default 3 0).course Cast.stumbling.outside
        ⟨.ofCapacity 1000, {}⟩).deeds = before ++ .dispatched op refusal :: after :=
    ⟨[_, _, _, _, _, _], _, _, _, rfl⟩
  obtain ⟨before, op, refusal, after, split⟩ := first
  obtain ⟨cause, last, cargo⟩ :=
    dispatched_cargo built rfl (fun _ => Cast.stumbling_keepsHeaders) split
  exact ⟨rfl, Cast.stumbling_keepsHeaders, before, op, refusal, after, cause, split, last, cargo⟩

end ReceivePipeline
end Redelivery
