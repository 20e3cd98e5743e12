import Mathlib.Data.List.Forall2
import Redelivery.Proofs.Delivery.Copies
import Redelivery.Proofs.Notification.Counters
import Redelivery.Proofs.Processing.Deliveries

/-! What subscribers are told. A delivery tells of at most one thing: the immediate retry that
absorbed it, or the operation that settled the message. What is told of an operation is what the
receiver of it sees, so that the notifications of a whole run can be read off the deliveries it
consists of and the operations it sent, and the counters off the notifications. -/
namespace Redelivery

def Event.notice? : Event → Option Notification
  | .notified n => some n
  | _ => none

def Event.sent? : Event → Option Operation
  | .dispatched op none => some op
  | _ => none

def notices (ds : List Deed) : List Notification := ds.filterMap (·.event.notice?)

theorem notices_append (a b : List Deed) : notices (a ++ b) = notices a ++ notices b :=
  List.filterMap_append

theorem sent_tally (ds : List Deed) : (tally ds).sent = ds.filterMap (·.event.sent?) := by
  induction ds with
  | nil => rfl
  | cons deed ds ih =>
    rw [tally_cons, Tally.sent_add, ih]
    cases deed with
    | dispatched op refusal => cases refusal <;> rfl
    | _ => rfl

/-- What is told of an operation that was sent. The retry number is the one that the copy carries,
and the failure is the one that a message for the error queue describes. -/
inductive Announces (s : Settings) : Operation → Notification → Prop where
  | copy {op : Operation} {attempt : Nat} {delay : Duration} {failure : Failure}
      (destination : op.destination = s.address) (delays : op.delays = [delay])
      (numbered : op.message.headers.get? Headers.retries = some (Whole.text attempt)) :
      Announces s op (.retry attempt delay false op.message.toIncoming failure)
  | forward {op : Operation} {failure : Failure} (time : Instant)
      (destination : op.destination = s.errorQueue) (delays : op.delays = [])
      (stamped : ∀ key value, (failure.stamps s.address time).lookup key = some value →
        op.message.headers.get? key = some value) :
      Announces s op (.faulted op.message.toIncoming failure)

theorem Announces.kind {s : Settings} {op : Operation} {n : Notification}
    (announces : Announces s op n) : n.kind ≠ .immediateRetry := by
  cases announces <;> exact nofun

def Announced (s : Settings) (ds : List Deed) : Prop :=
  ∃ op n, (tally ds).sent = [op] ∧ notices ds = [n] ∧ Announces s op n

def Silent (ds : List Deed) : Prop := (tally ds).sent = [] ∧ notices ds = []

theorem Silent.append {a b : List Deed} (first : Silent a) (second : Silent b) :
    Silent (a ++ b) := by
  refine ⟨?_, ?_⟩
  · rw [tally_append, Tally.sent_add, first.1, second.1]
    rfl
  · rw [notices_append, first.2, second.2]
    rfl

theorem Announced.after {s : Settings} {a b : List Deed} (announced : Announced s b)
    (silent : Silent a) : Announced s (a ++ b) := by
  obtain ⟨op, n, sent, told, announces⟩ := announced
  refine ⟨op, n, ?_, ?_, announces⟩
  · rw [tally_append, Tally.sent_add, silent.1, sent]
    rfl
  · rw [notices_append, silent.2, told]
    rfl

theorem silent_entered (stage id : String) : Silent [.entered stage id] := ⟨rfl, rfl⟩

theorem Silent.attempt {ds : List Deed} (silent : Silent ds) (stage id : String) (c : Context) :
    Silent (.entered stage id :: attemptDeeds c ds) :=
  ((silent_entered stage id).append (silent_entered _ _)).append silent

def Course.absorbed {σ : Type} (pass : Course σ Delivery) (id : String) : Bool :=
  match pass.ended, pass.world.table.lookup id with
  | .done .aborted, some ⟨_, _, false, false⟩ => true
  | _, _ => false

/-- What one delivery tells, when some failures of the message were recorded before it. -/
inductive Telling {σ : Type} (s : Settings) (id : String) (failures : Nat)
    (pass : Course σ Delivery) : Prop where
  | absorbed {message : Incoming} {r : FailureRecord} (absorbed : pass.absorbed id = true)
      (same : message.id = id) (recorded : pass.world.table.lookup id = some r)
      (told : notices pass.deeds = [.retry (failures + 1) .zero true message r.failure])
      (idle : pass.tally.sent = [])
  | announced (unabsorbed : pass.absorbed id = false) (announced : Announced s pass.deeds)
  | silent (unabsorbed : pass.absorbed id = false) (silent : Silent pass.deeds)

section ways
variable {σ : Type} {o : Outside σ} {handlers : List (Nat × String)} {bound : Nat}
  {mode : DecisionMode} {policy : Option DelayPolicy} {asked : DelayPolicy} {s : Settings}
  {failure : Failure} {c : Context} {w w' : World σ} {p : Passage} {ds : List Deed} {id : String}

theorem absorbed_of_ended {pass : Course σ Delivery} (ended : pass.ended ≠ .done .aborted) :
    pass.absorbed id = false := by
  unfold Course.absorbed
  split
  · contradiction
  · rfl

theorem absorbed_recorded (t : FailureTable) (outside : σ) (toErrorQueue toDelay : Bool) :
    (⟨.done .aborted, ⟨(t.record id failure toErrorQueue toDelay).1, outside⟩, ds⟩ :
      Course σ Delivery).absorbed id = (!toErrorQueue && !toDelay) := by
  simp only [Course.absorbed, FailureTable.lookup_record_self]
  cases t.lookup id <;> cases toErrorQueue <;> cases toDelay <;> rfl

theorem failure_recorded (t : FailureTable) (id : String) (failure : Failure)
    (toErrorQueue toDelay : Bool) :
    ∃ r, (t.record id failure toErrorQueue toDelay).1.lookup id = some r ∧
      r.failure = failure := by
  refine ⟨_, t.lookup_record_self id failure toErrorQueue toDelay, ?_⟩
  cases t.lookup id <;> rfl

theorem handleAll_silent (o : Outside σ) (handlers : List (Nat × String)) (m : Incoming)
    (st : σ) : Silent (o.handleAll handlers m st).deeds := by
  refine ⟨(handleAll_sends_nothing o handlers m st).1, ?_⟩
  apply o.handleAll_induction (P := fun _ _ _ r => notices r.deeds = [])
  case empty => exact fun _ _ => rfl
  case done => exact fun _ _ _ _ _ _ _ ih => ih
  case failed => exact fun _ _ _ _ _ _ _ => rfl
  case panicked => exact fun _ _ _ _ _ _ _ => rfl

theorem silent_acts (ds : List Deed) : Silent (ds.filter Deed.isAct) ↔ Silent ds := by
  rw [Silent, Silent, sent_tally, sent_tally, notices, notices,
    filterMap_acts (fun _ _ => rfl), filterMap_acts (fun _ _ => rfl)]

theorem Tries.silent (tries : Tries o handlers bound c w p w' ds)
    (unaborted : p.context.aborted = false) : Silent ds := by
  have quiet := handleAll_silent o handlers c.message w.outside
  cases tries with
  | succeeded handled done =>
    subst handled
    exact quiet
  | absorbed handled failed retryable left told => cases unaborted
  | usedUp handled failed retryable spent =>
    subst handled
    exact quiet
  | unreadable handled failed hopeless =>
    subst handled
    exact quiet

theorem Tries.told (tries : Tries o handlers bound c w p w' ds) (kept : c.aborted = false)
    (again : p.context.aborted = true) :
    ∃ failure message, message.id = c.message.id ∧
      w'.table = (w.table.record c.message.id failure false false).1 ∧
      notices ds =
        [.retry (w.table.attempts c.message.id + 1) .zero true message failure] := by
  cases tries with
  | succeeded handled done => cases kept.symm.trans again
  | absorbed handled failed retryable left told =>
    subst handled told
    refine ⟨_, _, handleAll_id o handlers c.message w.outside, rfl, ?_⟩
    rw [notices_append, (handleAll_silent o handlers c.message w.outside).2]
    rfl
  | usedUp handled failed retryable spent => cases kept.symm.trans again
  | unreadable handled failed hopeless => cases kept.symm.trans again

theorem stamps_retries {failedQueue key value : String} {time : Instant}
    (described : (failure.stamps failedQueue time).lookup key = some value) :
    key ≠ Headers.retries := by
  have undescribed : (failure.stamps failedQueue time).lookup Headers.retries = none := by
    rw [Failure.stamps]
    cases failure.stage? <;> rfl
  rintro rfl
  cases undescribed.symm.trans described

theorem Defers.told (defers : Defers o mode asked failure c w p w' ds)
    (home : c.address = s.address) :
    p.failure = none ∧ Announced s ds ∨ p.failure ≠ none ∧ Silent ds := by
  cases defers with
  | sent retryable granted left copy accepted told =>
    subst copy told
    refine .inl ⟨rfl, _, _, rfl, rfl, .copy home rfl ?_⟩
    have other : Headers.retries ≠ Headers.retriesTimestamp := by decide
    simp [delayedOperation, Stage.delayedCopy, Incoming.toOutgoing, Headers.get?_insertIfNew, other]
  | refused retryable granted left copy refused => exact .inr ⟨Option.some_ne_none _, rfl, rfl⟩
  | denied retryable denied left => exact .inr ⟨Option.some_ne_none _, rfl, rfl⟩
  | unasked hopeless => exact .inr ⟨Option.some_ne_none _, rfl, rfl⟩

theorem Forwards.told (forwards : Forwards o s.errorQueue failure c w p w' ds)
    (home : c.address = s.address) :
    p.failure = none ∧ Announced s ds ∨ p.failure ≠ none ∧ Silent ds := by
  cases forwards with
  | sent copy accepted told =>
    subst copy told
    refine .inl ⟨rfl, _, _, rfl, rfl, .forward (o.now w.outside) rfl rfl ?_⟩
    intro key value described
    have stamped := Incoming.get?_faulted c.message failure c.address (o.now w.outside) key
    rw [home, described, if_neg (stamps_retries described)] at stamped
    rw [home]
    exact stamped
  | refused copy refused => exact .inr ⟨Option.some_ne_none _, rfl, rfl⟩

inductive Delays.Told (s : Settings) (id : String) (w w' : World σ) (p : Passage)
    (ds : List Deed) : Prop where
  | absorbed {failure : Failure} {message : Incoming} (fine : p.failure = none)
      (again : p.context.aborted = true) (same : message.id = id)
      (recorded : w'.table = (w.table.record id failure false false).1)
      (idle : (tally ds).sent = [])
      (told : notices ds = [.retry (w.table.attempts id + 1) .zero true message failure])
  | announced (fine : p.failure = none) (kept : p.context.aborted = false)
      (announced : Announced s ds)
  | handled (fine : p.failure = none) (kept : p.context.aborted = false) (silent : Silent ds)
  | postponed {failure : Failure} {t : FailureTable} (fine : p.failure = none)
      (again : p.context.aborted = true) (recorded : w'.table = (t.record id failure false true).1)
      (silent : Silent ds)
  | failed (failed : p.failure ≠ none) (kept : p.context.aborted = false) (silent : Silent ds)

theorem Delays.Told.of_failed (told : Delays.Told s id w w' p ds)
    (failed : p.failure = some failure) : p.context.aborted = false ∧ Silent ds := by
  cases told with
  | absorbed fine => cases failed.symm.trans fine
  | announced fine => cases failed.symm.trans fine
  | handled fine => cases failed.symm.trans fine
  | postponed fine => cases failed.symm.trans fine
  | failed _ kept silent => exact ⟨kept, silent⟩

theorem Tries.delays_told (tries : Tries o handlers bound c w p w' ds) (kept : c.aborted = false)
    {all : List Deed} {stages : List Deed} (silent : Silent stages) (same : all = stages ++ ds) :
    Delays.Told s c.message.id w w' p all := by
  subst same
  cases again : p.context.aborted with
  | true =>
    obtain ⟨failure, message, same, recorded, told⟩ := tries.told kept again
    have fine : p.failure = none := by
      cases failed : p.failure with
      | none => rfl
      | some failure => cases ((tries.aborted failed).trans kept).symm.trans again
    refine .absorbed fine again same recorded ?_ ?_
    · rw [tally_append, Tally.sent_add, silent.1, tries.sends_nothing.1]
      rfl
    · rw [notices_append, silent.2, told]
      rfl
  | false =>
    have quiet := silent.append (tries.silent again)
    cases failed : p.failure with
    | none => exact .handled failed again quiet
    | some failure => exact .failed (by simp [failed]) again quiet

theorem Delays.told (delays : Delays o handlers bound mode c w policy p w' ds)
    (kept : c.aborted = false) (home : c.address = s.address) :
    Delays.Told s c.message.id w w' p ds := by
  cases delays with
  | absent tries => exact tries.delays_told kept (silent_entered _ _) rfl
  | resumed later pending defers =>
    have kept := defers.aborted.trans kept
    rcases defers.told home with ⟨fine, announced⟩ | ⟨failed, silent⟩
    · exact .announced fine kept (announced.after (silent_entered _ _))
    · exact .failed failed kept ((silent_entered _ _).append silent)
  | passed fresh tries fine =>
    exact tries.delays_told kept ((silent_entered _ _).append (silent_entered _ _)) rfl
  | postponed later fresh tries failed retryable =>
    have silent := tries.silent ((tries.aborted failed).trans kept)
    exact .postponed rfl rfl rfl (silent.attempt _ _ c)
  | unreadable later fresh tries failed hopeless =>
    have kept := (tries.aborted failed).trans kept
    exact .failed nofun kept ((tries.silent kept).attempt _ _ c)
  | decided now tries failed defers =>
    have unaborted := (tries.aborted failed).trans kept
    have before := (tries.silent unaborted).attempt ReceivePipeline.delayedRetriesName
      c.message.id c
    have kept := defers.aborted.trans unaborted
    rcases defers.told (tries.keeps.2.trans home) with ⟨fine, announced⟩ | ⟨failed, silent⟩
    · exact .announced fine kept (announced.after before)
    · exact .failed failed kept (before.append silent)

theorem telling_last (failures : Nat) (kept : p.context.aborted = false)
    (told : Announced s ds ∨ Silent ds) :
    Telling s id failures (⟨.done p.delivery, w', ds⟩ : Course σ Delivery) := by
  have last : p.delivery ≠ .aborted := fun again =>
    absurd (Passage.of_aborted again).2 (by simp [kept])
  have unabsorbed : (⟨.done p.delivery, w', ds⟩ : Course σ Delivery).absorbed id = false :=
    absorbed_of_ended (by simpa using last)
  rcases told with announced | silent
  · exact .announced unabsorbed announced
  · exact .silent unabsorbed silent

theorem Delivers.told
    (delivers : Delivers o handlers bound mode policy s.errorQueue c w p w' ds)
    (kept : c.aborted = false) (home : c.address = s.address) :
    Telling s c.message.id (w.table.attempts c.message.id)
      (⟨.done p.delivery, w', ds⟩ : Course σ Delivery) := by
  cases delivers with
  | resumed later pending forwards =>
    apply telling_last _ (forwards.aborted.trans kept)
    rcases forwards.told home with ⟨fine, announced⟩ | ⟨failed, silent⟩
    · exact .inl (announced.after (silent_entered _ _))
    · exact .inr ((silent_entered _ _).append silent)
  | passed fresh delays fine =>
    cases delays.told kept home with
    | @absorbed failure message fine again same recorded idle told =>
      obtain ⟨table, outside⟩ := w'
      cases recorded
      obtain ⟨r, known, failed⟩ := failure_recorded w.table c.message.id failure false false
      rw [Passage.delivery_aborted fine again]
      exact .absorbed (absorbed_recorded _ _ false false) same known (failed ▸ told) idle
    | announced fine kept announced =>
      exact telling_last _ kept (.inl (announced.after (silent_entered _ _)))
    | handled fine kept silent =>
      exact telling_last _ kept (.inr ((silent_entered _ _).append silent))
    | postponed fine again recorded silent =>
      obtain ⟨table, outside⟩ := w'
      cases recorded
      rw [Passage.delivery_aborted fine again]
      exact .silent (absorbed_recorded _ _ false true) ((silent_entered _ _).append silent)
    | failed failed => exact absurd fine failed
  | postponed later fresh delays failed =>
    obtain ⟨-, silent⟩ := (delays.told kept home).of_failed failed
    rw [Passage.delivery_aborted rfl rfl]
    exact .silent (absorbed_recorded _ _ true false) ((silent_entered _ _).append silent)
  | forwarded now delays failed forwards =>
    obtain ⟨inside, silent⟩ := (delays.told kept home).of_failed failed
    have before := (silent_entered ReceivePipeline.errorForwardName c.message.id).append silent
    apply telling_last _ (forwards.aborted.trans inside)
    rcases forwards.told (delays.keeps.2.trans home) with
      ⟨fine, announced⟩ | ⟨failed, quiet⟩
    · exact .inl (announced.after before)
    · exact .inr (before.append quiet)

end ways

namespace ReceivePipeline
variable {σ : Type} {o : Outside σ} {handlers : List (Nat × String)} {s : Settings}
  {given : Option DelayPolicy} {p : ReceivePipeline} {w : World σ}

def found (o : Outside σ) (p : ReceivePipeline) (m : Incoming) :
    Nat → World σ → List (World σ)
  | 0, _ => []
  | allowed + 1, w =>
    w :: match ((p.invoke m).run o w).ended with
      | .done .aborted => found o p m allowed ((p.invoke m).run o w).world
      | _ => []

/-- What is seen of processing some messages one after another, in the end with or without a
panic. -/
def processAll (o : Outside σ) (p : ReceivePipeline) : List Incoming → World σ → List Event
  | [], _ => []
  | m :: ms, w => ((p.process m).run o w).events ++ processAll o p ms ((p.process m).run o w).world

def encounters (o : Outside σ) (p : ReceivePipeline) :
    List Incoming → World σ → List (Incoming × World σ)
  | [], _ => []
  | m :: ms, w => (found o p m Whole.max32 w).map (m, ·) ++
      encounters o p ms ((p.process m).run o w).world

def passOf (o : Outside σ) (p : ReceivePipeline) (visit : Incoming × World σ) :
    Course σ Delivery := (p.invoke visit.1).course o visit.2

theorem passes_found (o : Outside σ) (p : ReceivePipeline) (m : Incoming) (allowed : Nat)
    (w : World σ) :
    passes o p m allowed w = (found o p m allowed w).map ((p.invoke m).course o) := by
  induction allowed generalizing w with
  | zero => rfl
  | succ allowed ih =>
    rw [found, List.map_cons]
    rcases aborted_or_last o p m w with ⟨w', ds, aborted⟩ | last
    · have ended := congrArg Course.ended aborted
      have world := congrArg Course.world aborted
      simp only [Flow.course] at ended world
      rw [passes_aborted _ aborted, aborted, ended, world, ih]
    · rw [passes_last _ last]
      split
      · contradiction
      · rfl

theorem filterMap_events {α β : Type} {f : Event → Option β}
    (quiet : ∀ e, e.isDeed = false → f e = none) (x : Flow α) (w : World σ) :
    (x.run o w).events.filterMap f = (x.course o w).deeds.filterMap (f ·.event) := by
  have deeds : ((x.run o w).events.filter Event.isDeed).filterMap f =
      (x.run o w).events.filterMap f := by
    rw [List.filterMap_filter]
    congr 1
    funext e
    cases deed : e.isDeed with
    | true => rfl
    | false => exact (quiet e deed).symm
  rw [← deeds, Flow.events_run, List.filterMap_map]
  rfl

theorem filterMap_processAll {β : Type} {f : Event → Option β}
    (quiet : ∀ e, e.isDeed = false → f e = none) (o : Outside σ) (p : ReceivePipeline)
    (ms : List Incoming) (w : World σ) :
    (processAll o p ms w).filterMap f = (encounters o p ms w).flatMap fun visit =>
      (passOf o p visit).deeds.filterMap (f ·.event) := by
  induction ms generalizing w with
  | nil => rfl
  | cons m ms ih =>
    rw [processAll, encounters, List.filterMap_append, List.flatMap_append, ih,
      filterMap_events quiet, process, deeds_processWithin, passes_found, List.filterMap_flatMap,
      List.flatMap_map, List.flatMap_map]
    rfl

theorem deeds_processAll (o : Outside σ) (p : ReceivePipeline) (ms : List Incoming)
    (w : World σ) :
    (processAll o p ms w).filter Event.isDeed =
      (encounters o p ms w).flatMap fun visit => (passOf o p visit).deeds.map Deed.event := by
  have deed (d : Deed) : Option.guard Event.isDeed d.event = some d.event := by cases d <;> rfl
  rw [← List.filterMap_eq_filter, filterMap_processAll]
  · simp only [deed, List.filterMap_eq_map']
  · intro e other
    simp [Option.guard, other]

/-- The immediate retry that is told of a delivery: the first failures are those on record. -/
def Retries (o : Outside σ) (p : ReceivePipeline) (visit : Incoming × World σ)
    (n : Notification) : Prop :=
  ∃ message r, message.id = visit.1.id ∧
    (passOf o p visit).world.table.lookup visit.1.id = some r ∧
    n = .retry (visit.2.table.attempts visit.1.id + 1) .zero true message r.failure

/-- What some deliveries tell: of each one that ended in an immediate retry, and of each operation
that was sent. -/
structure Tells (o : Outside σ) (p : ReceivePipeline) (s : Settings)
    (visits : List (Incoming × World σ)) (sent : List Operation) (told : List Notification) :
    Prop where
  immediate : List.Forall₂ (Retries o p)
    (visits.filter fun visit => (passOf o p visit).absorbed visit.1.id)
    (told.filter (·.kind = .immediateRetry))
  announced : List.Forall₂ (Announces s) sent (told.filter (·.kind ≠ .immediateRetry))

theorem Tells.append {visits visits' : List (Incoming × World σ)} {sent sent' : List Operation}
    {told told' : List Notification} (first : Tells o p s visits sent told)
    (second : Tells o p s visits' sent' told') :
    Tells o p s (visits ++ visits') (sent ++ sent') (told ++ told') where
  immediate := by
    rw [List.filter_append, List.filter_append]
    exact List.rel_append first.immediate second.immediate
  announced := by
    rw [List.filter_append]
    exact List.rel_append first.announced second.announced

theorem tells_visit (built : build s given (handlerStages handlers) = .ok p) (o : Outside σ)
    (visit : Incoming × World σ) :
    Tells o p s [visit] (passOf o p visit).tally.sent (notices (passOf o p visit).deeds) := by
  obtain ⟨m, w⟩ := visit
  have telling : Telling s m.id (w.table.attempts m.id) (passOf o p (m, w)) := by
    rcases delivers_or_panicked built o m w with
      ⟨passage, w', ds, delivers, course⟩ | ⟨text, w', ds, panic, course, acts⟩
    · rw [passOf, course]
      exact delivers.told rfl (address_of_build built)
    · rw [passOf, course]
      have silent := handleAll_silent o handlers m w.outside
      rw [← silent_acts, ← acts, silent_acts] at silent
      exact .silent (absorbed_of_ended nofun) silent
  cases telling with
  | absorbed absorbed same recorded told idle =>
    rw [told, idle]
    refine ⟨?_, .nil⟩
    have itself : [(m, w)].filter (fun visit => (passOf o p visit).absorbed visit.1.id) =
        [(m, w)] := by
      simp [absorbed]
    rw [itself]
    exact .cons ⟨_, _, same, recorded, rfl⟩ .nil
  | announced unabsorbed announced =>
    obtain ⟨op, n, sent, told, announces⟩ := announced
    rw [Course.tally, sent, told]
    have kind := announces.kind
    constructor
    · simp [unabsorbed, kind]
    · simp [kind, announces]
  | silent unabsorbed silent =>
    rw [Course.tally, silent.1, silent.2]
    refine ⟨?_, .nil⟩
    simp [unabsorbed]

theorem tells_visits (built : build s given (handlerStages handlers) = .ok p) (o : Outside σ)
    (visits : List (Incoming × World σ)) :
    Tells o p s visits (visits.flatMap fun visit => (passOf o p visit).tally.sent)
      (visits.flatMap fun visit => notices (passOf o p visit).deeds) := by
  induction visits with
  | nil => exact ⟨.nil, .nil⟩
  | cons visit rest ih => exact (tells_visit built o visit).append ih

/-- Every notification is counted, by its kind and category. -/
theorem countP_measures (events : List Event) (kind : Notification.Kind) (category : Category) :
    (events.filterMap Event.measure?).countP (·.isOf kind category) =
      (events.filterMap Event.notice?).countP fun n =>
        n.kind = kind ∧ n.failure.category = category := by
  induction events with
  | nil => rfl
  | cons e rest ih =>
    cases e with
    | notified n =>
      simp only [List.filterMap_cons, Event.measure?, Event.notice?, List.countP_cons, ih]
      rfl
    | critical text failure =>
      simpa [List.filterMap_cons, Event.measure?, Event.notice?, Measure.isOf] using ih
    | _ => simpa [List.filterMap_cons, Event.measure?, Event.notice?] using ih

/-- The notifications of messages processed one after another: one for each delivery that ended in
an immediate retry and one for each operation that was sent, in their order. The counters of the
endpoint grow by them. -/
theorem notifications_tell (built : build s given (handlerStages handlers) = .ok p)
    (o : Outside σ) (ms : List Incoming) (w : World σ) :
    let events := processAll o p ms w
    let visits := encounters o p ms w
    let told := events.filterMap Event.notice?
    events.filter Event.isDeed =
        visits.flatMap (fun visit => (passOf o p visit).deeds.map Deed.event) ∧
      Tells o p s visits (events.filterMap Event.sent?) told ∧
      ∀ (counters : Counters) endpoint kind category,
        (counters.counting endpoint (events.filterMap Event.measure?)).value
            (.ofKind endpoint kind category) =
          counters.value (.ofKind endpoint kind category) +
            told.countP fun n => n.kind = kind ∧ n.failure.category = category := by
  refine ⟨deeds_processAll o p ms w, ?_, fun counters endpoint kind category => ?_⟩
  · have tells := tells_visits built o (encounters o p ms w)
    have told := filterMap_processAll (f := Event.notice?) ?quiet o p ms w
    have sent := filterMap_processAll (f := Event.sent?) ?unsent o p ms w
    simp only [Course.tally, sent_tally] at tells
    case quiet =>
      intro e other
      cases e <;> first | rfl | cases other
    case unsent =>
      intro e other
      cases e <;> first | rfl | cases other
    rw [told, sent]
    exact tells
  · rw [Counters.value_counting_ofKind, countP_measures]

theorem stumbling_notifications_tell : ∃ p,
    build (.forAddress "orders") none (handlerStages [(0, "Billing")]) = .ok p ∧
    let events := processAll Cast.stumbling.outside p [default, default] ⟨.ofCapacity 1000, {}⟩
    let visits := encounters Cast.stumbling.outside p [default, default] ⟨.ofCapacity 1000, {}⟩
    let told := events.filterMap Event.notice?
    events.filter Event.isDeed = visits.flatMap
        (fun visit => (passOf Cast.stumbling.outside p visit).deeds.map Deed.event) ∧
      Tells Cast.stumbling.outside p (.forAddress "orders") visits
        (events.filterMap Event.sent?) told ∧
      ∀ (counters : Counters) endpoint kind category,
        (counters.counting endpoint (events.filterMap Event.measure?)).value
            (.ofKind endpoint kind category) =
          counters.value (.ofKind endpoint kind category) +
            told.countP fun n => n.kind = kind ∧ n.failure.category = category :=
  ⟨_, rfl, notifications_tell rfl Cast.stumbling.outside [default, default]
    ⟨.ofCapacity 1000, {}⟩⟩

end ReceivePipeline
end Redelivery
