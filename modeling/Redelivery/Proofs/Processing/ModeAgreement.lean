import Mathlib.Data.List.Forall2
import Redelivery.Proofs.Processing.Decision

/-! The two ways of dealing with failures agree. With surroundings that answer alike, a message is
handled, sent and reported alike whether its receive can be aborted or not. What differs is the
number of immediate retries on the message, which only one of the two ways still has at hand when
it decides, and the times that are stamped on a copy. -/
namespace Redelivery

/-- Headers that agree, the number of immediate retries and some stamped times aside. -/
structure Headers.Alike (times : List String) (h h' : Headers) : Prop where
  same : ∀ key, key ≠ Headers.immediateRetries → key ∉ times → h.get? key = h'.get? key
  stamped : ∀ key ∈ times, (h.get? key).isSome ∧ (h'.get? key).isSome

/-- Messages that agree, their bodies aside. -/
structure Incoming.Alike (times : List String) (m m' : Incoming) : Prop where
  id : m.id = m'.id
  originalBody : m.originalBody = m'.originalBody
  headers : m.headers.Alike times m'.headers

/-- The times that are stamped on a copy of a message: that of the failure on its way to the error
queue, and that of the first delayed retry unless the message has one. -/
def Incoming.stampedOn (m : Incoming) (toErrorQueue : Bool) : List String :=
  if toErrorQueue then [Headers.timeOfFailure]
  else if (m.headers.get? Headers.retriesTimestamp).isSome then []
  else [Headers.retriesTimestamp]

structure Operation.Alike (m : Incoming) (op op' : Operation) : Prop where
  destination : op.destination = op'.destination
  delays : op.delays = op'.delays
  id : op.message.id = op'.message.id
  body : op.message.body = op'.message.body
  headers : op.message.headers.Alike (m.stampedOn op.delays.isEmpty) op'.message.headers

structure DelayQuestion.Alike (q q' : DelayQuestion) : Prop where
  message : q.message.Alike [] q'.message
  failure : q.failure = q'.failure
  retry : q.retry = q'.retry

inductive Notification.Alike (m : Incoming) : Notification → Notification → Prop where
  | same (n : Notification) : Notification.Alike m n n
  | delayed (attempt : Nat) (delay : Duration) (failure : Failure) {copy copy' : Incoming}
      (alike : copy.Alike (m.stampedOn false) copy') (body : copy.body = copy'.body) :
      Notification.Alike m (.retry attempt delay false copy failure)
        (.retry attempt delay false copy' failure)
  | faulted (failure : Failure) {copy copy' : Incoming}
      (alike : copy.Alike (m.stampedOn true) copy') (body : copy.body = copy'.body) :
      Notification.Alike m (.faulted copy failure) (.faulted copy' failure)

inductive Deed.Alike (m : Incoming) : Deed → Deed → Prop where
  | same (d : Deed) : Deed.Alike m d d
  | consulted (policy : DelayPolicy) {q q' : DelayQuestion} (answer : Option Duration)
      (alike : q.Alike q') :
      Deed.Alike m (.consulted policy q answer) (.consulted policy q' answer)
  | dispatched {op op' : Operation} (failed : Option Failure) (alike : op.Alike m op') :
      Deed.Alike m (.dispatched op failed) (.dispatched op' failed)
  | notified {n n' : Notification} (alike : n.Alike m n') :
      Deed.Alike m (.notified n) (.notified n')

/-- Surroundings that answer alike whenever their states are related, and stay related: handlers
answer the same to the same message, and policies, dispatchers and subscribers do not look at what
may differ. -/
structure Outside.Twins {σ τ : Type} (o : Outside σ) (o' : Outside τ) (R : σ → τ → Prop)
    (handlers : List (Nat × String)) (policy : Option DelayPolicy) (m : Incoming) : Prop where
  handle : ∀ handler ∈ handlers, ∀ message st st', R st st' →
    (o.handle handler.1 message st).1 = (o'.handle handler.1 message st').1 ∧
      R (o.handle handler.1 message st).2 (o'.handle handler.1 message st').2
  consult : ∀ asked, policy = some asked → ∀ q q' st st', q.Alike q' → R st st' →
    (o.answerPolicy asked q st).1 = (o'.answerPolicy asked q' st').1 ∧
      R (o.answerPolicy asked q st).2.1 (o'.answerPolicy asked q' st').2.1
  dispatch : ∀ op op' st st', op.Alike m op' → R st st' →
    (o.dispatch op st).1.failure = (o'.dispatch op' st').1.failure ∧
      R (o.dispatch op st).2 (o'.dispatch op' st').2
  notified : ∀ n n' st st', n.Alike m n' → R st st' → R (o.notified n st) (o'.notified n' st')

section copies
variable {m shown : Incoming}

theorem DelayQuestion.about_alike (alike : m.Alike [] shown) (failure : Failure) :
    (DelayQuestion.about failure m).Alike (.about failure shown) where
  message := alike
  failure := rfl
  retry := by
    have count := alike.headers.same Headers.retries (by decide) (by simp)
    simp only [DelayQuestion.about, Headers.nextRetry, Headers.retryCount, count]

theorem Headers.Alike.delayed {h h' : Headers} (alike : h.Alike [] h') (retry time time' : String) :
    ((h.insert Headers.retries retry).insertIfNew Headers.retriesTimestamp time).Alike
      (if (h.get? Headers.retriesTimestamp).isSome then [] else [Headers.retriesTimestamp])
      ((h'.insert Headers.retries retry).insertIfNew Headers.retriesTimestamp time') := by
  have other : Headers.retriesTimestamp ≠ Headers.retries := by decide
  have known := alike.same Headers.retriesTimestamp (by decide) (by simp)
  constructor
  · intro key different unstamped
    have same := alike.same key different (by simp)
    simp only [Headers.get?_insertIfNew, Headers.get?_insert, if_neg other, ← known, ← same]
    cases stamped : h.get? Headers.retriesTimestamp with
    | some time => simp
    | none =>
      rw [stamped] at unstamped
      have : key ≠ Headers.retriesTimestamp := by simpa using unstamped
      simp [this]
  · intro key stamped
    cases unknown : h.get? Headers.retriesTimestamp with
    | some time => simp [unknown] at stamped
    | none =>
      rw [unknown] at stamped known
      have : key = Headers.retriesTimestamp := by simpa using stamped
      subst this
      simp [Headers.get?_insertIfNew, if_neg other, unknown, ← known]

theorem Headers.Alike.faulted {h h' : Headers} (alike : h.Alike [] h') (failure : Failure)
    (queue : String) (time time' : Instant) :
    ((h.stampFailure failure queue time).erase Headers.retries).Alike [Headers.timeOfFailure]
      ((h'.stampFailure failure queue time').erase Headers.retries) := by
  have other : Headers.timeOfFailure ≠ Headers.retries := by decide
  constructor
  · intro key different unstamped
    have same := alike.same key different (by simp)
    have untimed : key ≠ Headers.timeOfFailure := by simpa using unstamped
    simp only [Headers.stampFailure, Headers.get?_erase, Headers.get?_insert, if_neg untimed]
    cases failure.stage? <;> simp [same]
  · intro key stamped
    have : key = Headers.timeOfFailure := by simpa using stamped
    subst this
    simp [Headers.stampFailure, if_neg other]

theorem Incoming.Alike.delayedOperation (alike : m.Alike [] shown) (address : String)
    (delay : Duration) (time time' : Instant) :
    (delayedOperation address m delay time).Alike m (delayedOperation address shown delay time') where
  destination := rfl
  delays := rfl
  id := alike.id
  body := alike.originalBody
  headers := by
    have retry := (DelayQuestion.about_alike alike (.deserialization "" "")).retry
    simp only [DelayQuestion.about] at retry
    have headers := alike.headers.delayed (Whole.text m.headers.nextRetry) time.wireText
      time'.wireText
    simp only [Redelivery.delayedOperation, Stage.delayedCopy, ← retry]
    exact headers

theorem Incoming.Alike.delayedNotice (alike : m.Alike [] shown) (delay : Duration)
    (time time' : Instant) (failure : Failure) :
    (delayedNotice m delay time failure).Alike m (delayedNotice shown delay time' failure) := by
  have operation := alike.delayedOperation "" delay time time'
  have retry := (DelayQuestion.about_alike alike failure).retry
  simp only [DelayQuestion.about] at retry
  simp only [Redelivery.delayedNotice, ← retry]
  rw [Redelivery.delayedOperation, Redelivery.delayedOperation, ← retry] at operation
  exact .delayed _ _ _ ⟨operation.id, operation.body, operation.headers⟩ operation.body

theorem Incoming.Alike.faulted (alike : m.Alike [] shown) (failure : Failure) (queue : String)
    (time time' : Instant) :
    (m.faulted failure queue time).Alike (m.stampedOn true) (shown.faulted failure queue time') where
  id := alike.id
  originalBody := alike.originalBody
  headers := alike.headers.faulted failure queue time time'

theorem Incoming.Alike.faultedOperation (alike : m.Alike [] shown) (errorQueue address : String)
    (failure : Failure) (time time' : Instant) :
    (faultedOperation errorQueue address m failure time).Alike m
      (faultedOperation errorQueue address shown failure time') where
  destination := rfl
  delays := rfl
  id := alike.id
  body := alike.originalBody
  headers := (alike.faulted failure address time time').headers

end copies

structure Handled.Same {σ τ : Type} (R : σ → τ → Prop) (r : Handled σ) (r' : Handled τ) : Prop where
  message : r.message = r'.message
  verdict : r.verdict = r'.verdict
  deeds : r.deeds = r'.deeds
  outside : R r.outside r'.outside

structure Fate.Alike {σ τ : Type} (R : σ → τ → Prop) (m : Incoming) (f : Fate σ) (f' : Fate τ) :
    Prop where
  ended : f.ended = f'.ended
  deeds : List.Forall₂ (Deed.Alike m) f.deeds f'.deeds
  outside : R f.outside f'.outside

section twins
variable {σ τ : Type} {o : Outside σ} {o' : Outside τ} {R : σ → τ → Prop}
  {handlers : List (Nat × String)} {policy : Option DelayPolicy} {m shown : Incoming}
  {st : σ} {st' : τ} {failure : Failure}

theorem Handled.Same.after {r : Handled σ} {r' : Handled τ} (same : r.Same R r')
    (earlier : List Deed) : (r.after earlier).Same R (r'.after earlier) where
  message := same.message
  verdict := same.verdict
  deeds := congrArg (earlier ++ ·) same.deeds
  outside := same.outside

theorem Fate.Alike.after {f : Fate σ} {f' : Fate τ} (alike : f.Alike R m f')
    {earlier earlier' : List Deed} (before : List.Forall₂ (Deed.Alike m) earlier earlier') :
    (f.after earlier).Alike R m (f'.after earlier') where
  ended := alike.ended
  deeds := List.rel_append before alike.deeds
  outside := alike.outside

theorem alike_refl (m : Incoming) (ds : List Deed) : List.Forall₂ (Deed.Alike m) ds ds :=
  List.forall₂_same.2 fun d _ => .same d

theorem handleAll_same (twins : o.Twins o' R handlers policy m) (message : Incoming)
    (related : R st st') :
    (o.handleAll handlers message st).Same R (o'.handleAll handlers message st') := by
  have answers := twins.handle
  clear twins
  induction handlers generalizing message st st' with
  | nil => exact ⟨rfl, rfl, rfl, related⟩
  | cons handler rest ih =>
    obtain ⟨slot, name⟩ := handler
    obtain ⟨answer, later⟩ := answers (slot, name) List.mem_cons_self message st st' related
    simp only at answer later
    rw [Outside.handleAll, Outside.handleAll, ← answer]
    cases outcome : (o.handle slot message st).1.outcome with
    | done =>
      exact (ih (message.handledBy _) later
        fun h member => answers h (List.mem_cons_of_mem _ member)).after _
    | failed failure => exact ⟨rfl, rfl, rfl, later⟩
    | panicked text => exact ⟨rfl, rfl, rfl, later⟩

theorem attempts_same (twins : o.Twins o' R handlers policy m) (left before : Nat)
    (related : R st st') :
    (o.attempts handlers m left before st).Same R (o'.attempts handlers m left before st') := by
  have along := attempts_induction o handlers m
    (P := fun left before st r => ∀ st', R st st' →
      r.Same R (o'.attempts handlers m left before st')) ?ending ?usedUp ?again left before st
  case ending =>
    rintro left before st r rfl hopeless st' related
    have same := handleAll_same twins m related
    rw [attempts_ending left before rfl (same.verdict ▸ hopeless)]
    exact same
  case usedUp =>
    rintro before st r failure rfl failed retryable st' related
    have same := handleAll_same twins m related
    rw [attempts_usedUp before rfl (same.verdict ▸ failed) retryable]
    exact ⟨congrArg (·.retriedAtOnce before) same.message, same.verdict, same.deeds,
      same.outside⟩
  case again =>
    rintro left before st r failure notice later rfl failed retryable told ih st' related
    have same := handleAll_same twins m related
    rw [same.message] at told
    rw [attempts_again left before rfl (same.verdict ▸ failed) retryable told, ← same.deeds]
    exact (ih _ (twins.notified _ _ _ _ (.same notice) same.outside)).after _
  exact along st' related

theorem attempts_alike (keeps : o.KeepsHeaders handlers) (m : Incoming) (left before : Nat)
    (st : σ) : m.Alike [] (o.attempts handlers m left before st).message := by
  have kept : ∀ st, m.Alike [] (o.handleAll handlers m st).message := by
    intro st
    have headers := handleAll_headers o handlers keeps m st
    exact ⟨(handleAll_id o handlers m st).symm, (handleAll_originalBody o handlers m st).symm,
      ⟨fun _ _ _ => by rw [headers], fun _ member => by cases member⟩⟩
  apply attempts_induction o handlers m (P := fun _ _ _ r => m.Alike [] r.message)
  case ending =>
    rintro left before st r rfl _
    exact kept st
  case usedUp =>
    rintro before st r failure rfl _ _
    refine ⟨(kept st).id, (kept st).originalBody, ⟨fun key different unstamped => ?_,
      fun _ member => by cases member⟩⟩
    rw [(kept st).headers.same key different unstamped]
    simp [Incoming.retriedAtOnce, Incoming.setHeader, different]
  case again =>
    intro left before st r failure notice later _ _ _ _ ih
    exact ih

theorem forward_alike (twins : o.Twins o' R handlers policy m) (s : Settings) (failure : Failure)
    (alike : m.Alike [] shown) (related : R st st') :
    (o.forward s failure m st).Alike R m (o'.forward s failure shown st') := by
  have operations := alike.faultedOperation s.errorQueue s.address failure (o.now st) (o'.now st')
  obtain ⟨answer, later⟩ := twins.dispatch _ _ _ _ operations related
  simp only [Outside.forward, ← answer]
  cases (o.dispatch (faultedOperation s.errorQueue s.address m failure (o.now st)) st).1.failure with
  | some refusal =>
    exact ⟨rfl, .cons (.dispatched _ operations) (.cons (.same _) .nil), later⟩
  | none =>
    have notices : Notification.Alike m
        (.faulted (m.faulted failure s.address (o.now st)) failure)
        (.faulted (shown.faulted failure s.address (o'.now st')) failure) :=
      .faulted failure (alike.faulted failure s.address _ _) alike.originalBody
    exact ⟨rfl, .cons (.dispatched _ operations) (.cons (.notified notices) .nil),
      twins.notified _ _ _ _ notices later⟩

theorem consulted_alike (twins : o.Twins o' R handlers policy m) (s : Settings)
    {asked : DelayPolicy} (chosen : policy = some asked) (failure : Failure)
    (alike : m.Alike [] shown) (related : R st st') :
    (o.consulted s asked failure m st).Alike R m (o'.consulted s asked failure shown st') := by
  have questions := DelayQuestion.about_alike alike failure
  obtain ⟨answer, later⟩ := twins.consult asked chosen _ _ _ _ questions related
  simp only [Outside.consulted, ← answer]
  cases (o.answerPolicy asked (.about failure m) st).1 with
  | none =>
    exact (forward_alike twins s failure alike later).after (.cons (.consulted _ _ questions) .nil)
  | some delay =>
    have operations := alike.delayedOperation s.address delay
      (o.now (o.answerPolicy asked (.about failure m) st).2.1)
      (o'.now (o'.answerPolicy asked (.about failure shown) st').2.1)
    obtain ⟨answer, last⟩ := twins.dispatch _ _ _ _ operations later
    simp only [← answer]
    cases (o.dispatch (delayedOperation s.address m delay
        (o.now (o.answerPolicy asked (.about failure m) st).2.1))
        (o.answerPolicy asked (.about failure m) st).2.1).1.failure with
    | some refusal =>
      exact (forward_alike twins s refusal alike last).after (.cons (.consulted _ _ questions)
        (.cons (.dispatched _ operations) (.cons (.same _) .nil)))
    | none =>
      have notices := alike.delayedNotice delay
        (o.now (o.answerPolicy asked (.about failure m) st).2.1)
        (o'.now (o'.answerPolicy asked (.about failure shown) st').2.1) failure
      exact ⟨rfl, .cons (.consulted _ _ questions) (.cons (.dispatched _ operations)
        (.cons (.notified notices) .nil)), twins.notified _ _ _ _ notices last⟩

theorem decided_alike {s : Settings} {given : Option DelayPolicy}
    (twins : o.Twins o' R handlers (ReceivePipeline.policyOf s given) m) (failure : Failure)
    (alike : m.Alike [] shown) (related : R st st') :
    (o.decided s given failure m st).Alike R m (o'.decided s given failure shown st') := by
  unfold Outside.decided
  cases chosen : ReceivePipeline.policyOf s given with
  | none => exact forward_alike twins s failure alike related
  | some asked =>
    cases failure.isRetryable with
    | false => exact forward_alike twins s failure alike related
    | true => exact consulted_alike twins s chosen failure alike related

def Settings.unprotected (s : Settings) : Settings := { s with mode := .unprotected }

theorem fate_alike {s : Settings} {given : Option DelayPolicy} (abortable : s.mode.canAbort = true)
    (twins : o.Twins o' R handlers (ReceivePipeline.policyOf s given) m)
    (keeps : o.KeepsHeaders handlers) (left before : Nat) (related : R st st') :
    (o.fate s given handlers m left before st).Alike R m
      (o'.fate s.unprotected given handlers m left before st') := by
  have same := attempts_same twins left before related
  have alike := attempts_alike keeps m left before st
  have later : ReceivePipeline.modeOf s = .onNextDelivery := by
    simp [ReceivePipeline.modeOf, abortable, DecisionMode.ofAbortable]
  simp only [Outside.fate, ← same.verdict, ← same.message, ← same.deeds, later]
  cases (o.attempts handlers m left before st).verdict with
  | done => exact ⟨rfl, alike_refl m _, same.outside⟩
  | panicked text => exact ⟨rfl, alike_refl m _, same.outside⟩
  | failed failure => exact (decided_alike twins failure alike same.outside).after (alike_refl m _)

end twins

theorem alike_acts {m : Incoming} {ds ds' : List Deed} (alike : List.Forall₂ (Deed.Alike m) ds ds') :
    List.Forall₂ (Deed.Alike m) (ds.filter Deed.isAct) (ds'.filter Deed.isAct) := by
  refine List.rel_filter (fun d d' same => ?_) alike
  cases same <;> exact Iff.rfl

theorem Cast.twins (cast : Cast) (time : Instant) (handlers : List (Nat × String))
    (policy : Option DelayPolicy) (m : Incoming)
    (blind : ∀ schedule, policy = some (.ofMessage schedule) → ∀ m m' : Incoming, m.Alike [] m' →
      schedule.delayFor m = schedule.delayFor m') :
    cast.outside.Twins { cast with clock := time }.outside (· = ·) handlers policy m where
  handle := by
    rintro handler _ message st _ rfl
    exact ⟨rfl, rfl⟩
  consult := by
    rintro asked chosen q q' st _ alike rfl
    cases asked with
    | linear retries increase => exact ⟨by simp only [Outside.answerPolicy, alike.retry], rfl⟩
    | ofMessage schedule =>
      exact ⟨by simp only [Outside.answerPolicy, blind schedule chosen _ _ alike.message], rfl⟩
    | host number =>
      exact ⟨by simp only [Outside.answerPolicy, outside, host, delay?, alike.retry], rfl⟩
  dispatch := by
    rintro op op' st _ alike rfl
    refine ⟨?_, rfl⟩
    simp only [outside, host, dispatch]
    cases (cast.dispatches[st.dispatches]?).getD .succeed <;>
      simp [failureOf, alike.id, alike.destination]
  notified := by
    rintro n n' st _ _ rfl
    rfl

namespace ReceivePipeline
variable {σ τ : Type} {o : Outside σ} {o' : Outside τ} {R : σ → τ → Prop}
  {handlers : List (Nat × String)} {m : Incoming} {s : Settings} {given : Option DelayPolicy}
  {p p' : ReceivePipeline}

/-- Two courses of processing a message that agree: they ended with the same failure or with none,
and did the same in the same order, up to the number of immediate retries and stamped times. -/
structure Agree (R : σ → τ → Prop) (m : Incoming) (run : Course σ Processed)
    (run' : Course τ Processed) : Prop where
  ended : run.ended.failure? = run'.ended.failure?
  deeds : List.Forall₂ (Deed.Alike m) (run.deeds.filter Deed.isAct) (run'.deeds.filter Deed.isAct)
  outside : R run.world.outside run'.world.outside

/-- The two ways of dealing with failures agree, however many deliveries are allowed beyond those
that the immediate retries can take. -/
theorem protocols_agree (abortable : s.mode.canAbort = true)
    (built : build s given (handlerStages handlers) = .ok p)
    (built' : build s.unprotected given (handlerStages handlers) = .ok p')
    (twins : o.Twins o' R handlers (policyOf s given) m) (keeps : o.KeepsHeaders handlers)
    {w : World σ} {w' : World τ} (related : R w.outside w'.outside)
    (unrecorded : w.table.lookup m.id = none) (unrecorded' : w'.table.lookup m.id = none)
    {allowed : Nat} (room : s.immediateRetries.toNat + 3 ≤ allowed) :
    Agree R m ((p.processWithin m allowed 0).course o w)
        ((p'.processWithin m allowed 0).course o' w') ∧
      (o.Calm handlers → ∃ failure,
        ((p.processWithin m allowed 0).course o w).ended.failure? = .done failure) := by
  have fulfils := process_fulfils_fate (o := o) allowed 0 built unrecorded room
  have fulfils' := process_fulfils_fate (o := o') allowed 0 built' unrecorded' room
  have alike := fate_alike abortable twins keeps s.immediateRetries.toNat 0 related
  refine ⟨⟨?_, ?_, ?_⟩, fun calm => ?_⟩
  · exact fulfils.ended.trans (alike.ended.trans fulfils'.ended.symm)
  · rw [fulfils.deeds, fulfils'.deeds]
    exact alike_acts alike.deeds
  · rw [fulfils.outside, fulfils'.outside]
    exact alike.outside
  · rw [fulfils.ended]
    exact fate_calm s given calm m s.immediateRetries.toNat 0 w.outside

theorem stumbling_protocols_agree :
    (Settings.forAddress "orders").mode.canAbort = true ∧ ∃ p p',
      build (.forAddress "orders") none (handlerStages [(0, "Billing")]) = .ok p ∧
      build (Settings.forAddress "orders").unprotected none (handlerStages [(0, "Billing")]) =
        .ok p' ∧
      Cast.stumbling.outside.Twins { Cast.stumbling with clock := ⟨1, 0⟩ }.outside (· = ·)
        [(0, "Billing")] (policyOf (.forAddress "orders") none) default ∧
      Cast.stumbling.outside.KeepsHeaders [(0, "Billing")] ∧
      (FailureTable.ofCapacity 1000).lookup "" = none ∧
      (Settings.forAddress "orders").immediateRetries.toNat + 3 ≤ Whole.max32 ∧
      Agree (· = ·) default
        ((p.processWithin default Whole.max32 0).course Cast.stumbling.outside
          ⟨.ofCapacity 1000, {}⟩)
        ((p'.processWithin default Whole.max32 0).course
          { Cast.stumbling with clock := ⟨1, 0⟩ }.outside ⟨.ofCapacity 1000, {}⟩) ∧
      (Cast.stumbling.outside.Calm [(0, "Billing")] → ∃ failure,
        ((p.processWithin default Whole.max32 0).course Cast.stumbling.outside
          ⟨.ofCapacity 1000, {}⟩).ended.failure? = .done failure) := by
  have built := build_ok (s := .forAddress "orders") rfl rfl none (handlerStages [(0, "Billing")])
  have built' := build_ok (s := (Settings.forAddress "orders").unprotected) rfl rfl none
    (handlerStages [(0, "Billing")])
  have twins := Cast.stumbling.twins ⟨1, 0⟩ [(0, "Billing")]
    (policyOf (.forAddress "orders") none) default fun schedule chosen => by cases chosen
  exact ⟨rfl, _, _, built, built', twins, Cast.stumbling_keepsHeaders, rfl, by decide,
    protocols_agree rfl built built' twins Cast.stumbling_keepsHeaders rfl rfl rfl (by decide)⟩

end ReceivePipeline
end Redelivery
