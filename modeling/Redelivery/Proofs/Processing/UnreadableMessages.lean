import Redelivery.Proofs.Processing.Deliveries

/-! Messages that cannot be read. Once a handler failed because it could not read the body, no
retry of any kind follows, however many failures came before: the failure itself goes to the error
queue, in the same delivery or, where a receive can be aborted, in the very next one. -/
namespace Redelivery

/-- All that forwarding a message does: one dispatch, and a notice of it or an alarm. -/
inductive OnlyForwards (s : Settings) (id : String) (failure : Failure) : List Deed → Prop where
  | sent {shown copy : Incoming} {time : Instant} (named : copy.id = id)
      (stamped : copy = shown.faulted failure s.address time)
      (uncounted : copy.headers.get? Headers.retries = none) :
      OnlyForwards s id failure
        [.dispatched { message := copy.toOutgoing, destination := s.errorQueue } none,
          .notified (.faulted copy failure)]
  | refused {shown copy : Incoming} {time : Instant} {refusal : Failure} (named : copy.id = id)
      (stamped : copy = shown.faulted failure s.address time)
      (uncounted : copy.headers.get? Headers.retries = none) :
      OnlyForwards s id failure
        [.dispatched { message := copy.toOutgoing, destination := s.errorQueue } (some refusal),
          .critical forwardAlarm refusal]

def Deed.isCall : Deed → Bool
  | .called .. => true
  | _ => false

theorem Incoming.faulted_uncounted (m : Incoming) (failure : Failure) (queue : String)
    (time : Instant) : (m.faulted failure queue time).headers.get? Headers.retries = none := by
  simp [Incoming.faulted]

section positions
variable {front back before after : List Deed} {stage message : String} {deed : Deed}

theorem call_after_entered (call : deed.isCall = true)
    (split : .entered stage message :: back = before ++ deed :: after) :
    ∃ more, back = more ++ deed :: after := by
  cases before with
  | nil =>
    cases split
    cases call
  | cons first more => exact ⟨more, (List.cons.inj split).2⟩

theorem call_before_quiet (call : deed.isCall = true) (quiet : ∀ d ∈ back, d.isCall = false)
    (split : front ++ back = before ++ deed :: after) :
    ∃ more, front = before ++ deed :: more ∧ after = more ++ back := by
  rcases List.append_eq_append_iff.1 split with ⟨more, rfl, rest⟩ | ⟨more, rfl, rest⟩
  · have member : deed ∈ back := by simp [rest]
    cases call.symm.trans (quiet deed member)
  · cases more with
    | nil =>
      have member : deed ∈ back := by simp [show back = deed :: after from rest.symm]
      cases call.symm.trans (quiet deed member)
    | cons first more =>
      obtain ⟨rfl, rfl⟩ := List.cons.inj rest
      exact ⟨more, rfl, rfl⟩

end positions

section ways
variable {σ : Type} {o : Outside σ} {handlers : List (Nat × String)} {bound : Nat}
  {mode : DecisionMode} {policy : Option DelayPolicy} {asked : DelayPolicy}
  {errorQueue : String} {failure cause : Failure} {c : Context} {w w' : World σ} {p : Passage}
  {ds before later : List Deed} {slot : Nat} {name : String} {received : Incoming}
  {handling : Handling}

theorem handleAll_failed_call (o : Outside σ) (handlers : List (Nat × String)) (m : Incoming)
    (st : σ) (failed : handling.outcome = .failed cause)
    (split : (o.handleAll handlers m st).deeds =
      before ++ .called slot name received handling :: later) :
    later = [] ∧ (o.handleAll handlers m st).verdict = .failed (cause.claimedBy name) := by
  have along := o.handleAll_induction
    (P := fun _ _ _ r => ∀ before, r.deeds = before ++ .called slot name received handling :: later →
      later = [] ∧ r.verdict = .failed (cause.claimedBy name)) ?empty ?done ?failed ?panicked
    handlers m st
  case empty =>
    intro m s before split
    cases (List.append_eq_nil_iff.1 split.symm).2
  case done =>
    intro slot' name' rest m s r outcome ih before split
    obtain ⟨more, split⟩ := call_after_entered rfl split
    cases more with
    | nil =>
      cases (List.cons.inj split).1
      cases failed.symm.trans outcome
    | cons first more => exact ih more (List.cons.inj split).2
  case failed =>
    intro slot' name' rest m s cause' outcome before split
    obtain ⟨more, split⟩ := call_after_entered rfl split
    cases more with
    | nil =>
      obtain ⟨same, none⟩ := List.cons.inj split
      cases same
      cases failed.symm.trans outcome
      exact ⟨none.symm, rfl⟩
    | cons first more => cases (List.append_eq_nil_iff.1 (List.cons.inj split).2.symm).2
  case panicked =>
    intro slot' name' rest m s text outcome before split
    obtain ⟨more, split⟩ := call_after_entered rfl split
    cases more with
    | nil =>
      cases (List.cons.inj split).1
      cases failed.symm.trans outcome
    | cons first more => cases (List.append_eq_nil_iff.1 (List.cons.inj split).2.symm).2
  exact along before split

theorem Defers.calls_nothing (defers : Defers o mode asked failure c w p w' ds) :
    ∀ d ∈ ds, d.isCall = false := by
  cases defers <;> simp [Deed.isCall]

theorem Forwards.calls_nothing (forwards : Forwards o errorQueue failure c w p w' ds) :
    ∀ d ∈ ds, d.isCall = false := by
  cases forwards <;> simp [Deed.isCall]

theorem Tries.poisoned (tries : Tries o handlers bound c w p w' ds)
    (failed : handling.outcome = .failed cause) (hopeless : cause.isRetryable = false)
    (split : ds = before ++ .called slot name received handling :: later) :
    later = [] ∧ p.failure = some (cause.claimedBy name) := by
  have unclaimed := (isRetryable_claimedBy cause name).trans hopeless
  have call (r : Handled σ) (handled : o.handleAll handlers c.message w.outside = r)
      {later : List Deed} (split : r.deeds = before ++ .called slot name received handling :: later) :
      later = [] ∧ r.verdict = .failed (cause.claimedBy name) := by
    subst handled
    exact handleAll_failed_call o handlers c.message w.outside failed split
  cases tries with
  | succeeded handled done => cases done.symm.trans (call _ handled split).2
  | absorbed handled verdict retryable left told =>
    obtain ⟨more, inside, _⟩ := call_before_quiet rfl (by simp [Deed.isCall]) split
    cases verdict.symm.trans (call _ handled inside).2
    cases retryable.symm.trans unclaimed
  | usedUp handled verdict retryable spent =>
    cases verdict.symm.trans (call _ handled split).2
    cases retryable.symm.trans unclaimed
  | unreadable handled verdict hopeless' =>
    obtain ⟨last, verdict'⟩ := call _ handled split
    cases verdict.symm.trans verdict'
    exact ⟨last, rfl⟩

theorem Delays.poisoned (delays : Delays o handlers bound mode c w policy p w' ds)
    (failed : handling.outcome = .failed cause) (hopeless : cause.isRetryable = false)
    (split : ds = before ++ .called slot name received handling :: later) :
    later = [] ∧ p.failure = some (cause.claimedBy name) ∧ p.context.aborted = c.aborted := by
  cases delays with
  | absent tries =>
    obtain ⟨_, inside⟩ := call_after_entered rfl split
    obtain ⟨last, passed⟩ := tries.poisoned failed hopeless inside
    exact ⟨last, passed, tries.aborted passed⟩
  | resumed now pending defers =>
    obtain ⟨_, inside⟩ := call_after_entered rfl split
    have silent := defers.calls_nothing (.called slot name received handling) (by simp [inside])
    cases silent
  | passed fresh tries fine =>
    obtain ⟨_, inside⟩ := call_after_entered rfl split
    obtain ⟨_, inside⟩ := call_after_entered rfl inside
    cases fine.symm.trans (tries.poisoned failed hopeless inside).2
  | postponed now fresh tries passed retryable =>
    obtain ⟨_, inside⟩ := call_after_entered rfl split
    obtain ⟨_, inside⟩ := call_after_entered rfl inside
    cases passed.symm.trans (tries.poisoned failed hopeless inside).2
    cases retryable.symm.trans ((isRetryable_claimedBy cause name).trans hopeless)
  | unreadable now fresh tries passed hopeless' =>
    obtain ⟨_, inside⟩ := call_after_entered rfl split
    obtain ⟨_, inside⟩ := call_after_entered rfl inside
    obtain ⟨last, passed'⟩ := tries.poisoned failed hopeless inside
    cases passed.symm.trans passed'
    exact ⟨last, rfl, tries.aborted passed⟩
  | decided now tries passed defers =>
    obtain ⟨more, inside, rest⟩ := call_before_quiet rfl defers.calls_nothing split
    obtain ⟨_, inside⟩ := call_after_entered rfl inside
    obtain ⟨_, inside⟩ := call_after_entered rfl inside
    obtain ⟨last, passed'⟩ := tries.poisoned failed hopeless inside
    cases passed.symm.trans passed'
    have unasked := (isRetryable_claimedBy cause name).trans hopeless
    have kept := tries.aborted passed
    cases defers with
    | sent retryable => cases retryable.symm.trans unasked
    | refused retryable => cases retryable.symm.trans unasked
    | denied retryable => cases retryable.symm.trans unasked
    | unasked hopeless =>
      rw [last] at rest
      exact ⟨rest, rfl, kept⟩

theorem Delivers.undecided (delivers : Delivers o handlers bound mode policy errorQueue c w p w' ds)
    (reached : .called slot name received handling ∈ ds) :
    w.table.Undecided mode policy c.message.id := by
  have undelayed {policy : Option DelayPolicy} {p : Passage} {w' : World σ} {ds : List Deed}
      (delays : Delays o handlers bound mode c w policy p w' ds)
      (reached : .called slot name received handling ∈ ds) :
      mode = .onNextDelivery → policy = none ∨ w.table.pendingDelay c.message.id = none := by
    cases delays with
    | absent tries => exact fun _ => .inl rfl
    | resumed now pending defers =>
      rcases List.mem_cons.1 reached with other | inside
      · cases other
      · cases defers.calls_nothing _ inside
    | passed fresh tries fine => exact fun later => .inr (fresh later)
    | postponed now fresh tries passed retryable => exact fun _ => .inr fresh
    | unreadable now fresh tries passed hopeless => exact fun _ => .inr fresh
    | decided now tries passed defers => exact fun later => by cases now.symm.trans later
  have inner {ds : List Deed}
      (reached : .called slot name received handling ∈
        .entered ReceivePipeline.errorForwardName c.message.id :: ds) :
      .called slot name received handling ∈ ds := by
    simpa using reached
  cases delivers with
  | resumed now pending forwards => cases forwards.calls_nothing _ (inner reached)
  | passed fresh delays fine =>
    exact fun later => ⟨fresh later, undelayed delays (inner reached) later⟩
  | postponed now fresh delays passed =>
    exact fun later => ⟨fresh, undelayed delays (inner reached) later⟩
  | forwarded now delays passed forwards => exact fun later => by cases now.symm.trans later

theorem Delivers.poisoned_now
    (delivers : Delivers o handlers bound .atOnce policy errorQueue c w p w' ds)
    (failed : handling.outcome = .failed cause) (hopeless : cause.isRetryable = false)
    (split : ds = before ++ .called slot name received handling :: later) :
    ∃ c' w₁, Forwards o errorQueue (cause.claimedBy name) c' w₁ p w' later ∧
      c'.message.id = c.message.id ∧ c'.address = c.address ∧ c'.aborted = c.aborted := by
  cases delivers with
  | resumed now pending forwards => cases now
  | passed fresh delays fine =>
    obtain ⟨_, inside⟩ := call_after_entered rfl split
    cases fine.symm.trans (delays.poisoned failed hopeless inside).2.1
  | postponed now fresh delays passed => cases now
  | forwarded now delays passed forwards =>
    obtain ⟨more, inside, rest⟩ := call_before_quiet rfl forwards.calls_nothing split
    obtain ⟨_, inside⟩ := call_after_entered rfl inside
    obtain ⟨last, passed', kept⟩ := delays.poisoned failed hopeless inside
    cases passed.symm.trans passed'
    rw [rest, last]
    exact ⟨_, _, forwards, delays.keeps.1, delays.keeps.2, kept⟩

theorem Delivers.poisoned_later
    (delivers : Delivers o handlers bound .onNextDelivery policy errorQueue c w p w' ds)
    (failed : handling.outcome = .failed cause) (hopeless : cause.isRetryable = false)
    (split : ds = before ++ .called slot name received handling :: later) :
    later = [] ∧ p.delivery = .aborted ∧
      w'.table.pendingForward c.message.id = some (cause.claimedBy name) := by
  cases delivers with
  | resumed now pending forwards =>
    obtain ⟨_, inside⟩ := call_after_entered rfl split
    have silent := forwards.calls_nothing (.called slot name received handling) (by simp [inside])
    cases silent
  | passed fresh delays fine =>
    obtain ⟨_, inside⟩ := call_after_entered rfl split
    cases fine.symm.trans (delays.poisoned failed hopeless inside).2.1
  | postponed now fresh delays passed =>
    obtain ⟨_, inside⟩ := call_after_entered rfl split
    obtain ⟨last, passed', kept⟩ := delays.poisoned failed hopeless inside
    cases passed.symm.trans passed'
    exact ⟨last, Passage.delivery_aborted rfl rfl, FailureTable.pendingForward_record_self _ _ _ _ _⟩
  | forwarded now delays passed forwards => cases now

end ways

section forwarding
variable {σ : Type} {o : Outside σ} {s : Settings} {failure : Failure} {c : Context}
  {w w' : World σ} {p : Passage} {ds : List Deed}

theorem Forwards.onlyForwards (forwards : Forwards o s.errorQueue failure c w p w' ds)
    (here : c.address = s.address) : OnlyForwards s c.message.id failure ds := by
  cases forwards with
  | sent copy accepted told =>
    subst copy told
    exact .sent rfl (by rw [here]) (Incoming.faulted_uncounted _ _ _ _)
  | refused copy refused =>
    subst copy
    exact .refused rfl (by rw [here]) (Incoming.faulted_uncounted _ _ _ _)

theorem Forwards.ends (forwards : Forwards o s.errorQueue failure c w p w' ds)
    (kept : c.aborted = false) : p.delivery ≠ .aborted := by
  intro again
  cases ((forwards.aborted.trans kept).symm.trans (Passage.of_aborted again).2)

end forwarding

namespace ReceivePipeline
variable {σ : Type} {o : Outside σ} {handlers : List (Nat × String)} {s : Settings}
  {given : Option DelayPolicy} {p : ReceivePipeline} {m : Incoming} {w : World σ}
  {before later : List Deed} {slot : Nat} {name : String} {received : Incoming}
  {handling : Handling} {messageId reason : String}

/-- What a processing does after a handler could not read the body: nothing but the forwarding of
that very failure, in the same delivery or in the very next one. -/
structure GoesStraight (s : Settings) (id : String) (failure : Failure) (allowed earlier : Nat)
    (later : List Deed) (rest : List (Course σ Delivery)) : Prop where
  soon : earlier ≤ s.immediateRetries.toNat
  atOnce : modeOf s = .atOnce → rest = [] ∧ OnlyForwards s id failure later
  onNextDelivery : modeOf s = .onNextDelivery → later = [] ∧
    (earlier + 1 < allowed → ∃ next ds, rest = [next] ∧
      next.deeds = .entered errorForwardName id :: ds ∧ OnlyForwards s id failure ds)

/-- A handler is only reached while the immediate retries are not used up. -/
theorem Leads.soon (built : build s given (handlerStages handlers) = .ok p) {v : World σ}
    {earlier : List (Course σ Delivery)} (leads : Leads o p m w earlier v)
    (plain : v.table.Undecided (modeOf s) (policyOf s given) m.id) :
    earlier.length ≤ s.immediateRetries.toNat := by
  have fewer := leads.deliveriesLeft built
  rw [FailureTable.deliveriesLeft_plain (fun later => (plain later).1) fun later => (plain later).2]
    at fewer
  have most := FailureTable.deliveriesLeft_le (modeOf s) (policyOf s given)
    s.immediateRetries.toNat w.table m.id
  omega

/-- A message that cannot be read passes by both kinds of retries, from whatever records and
however many failures earlier in the processing. -/
theorem poison_bypasses_retries (built : build s given (handlerStages handlers) = .ok p)
    {allowed : Nat} {earlier rest : List (Course σ Delivery)} {pass : Course σ Delivery}
    (deliveries : p.passes o m allowed w = earlier ++ pass :: rest)
    (called : pass.deeds = before ++ .called slot name received handling :: later)
    (poison : handling.outcome = .failed (.deserialization messageId reason)) :
    ((p.processWithin m allowed 0).course o w).deeds =
        earlier.flatMap (·.deeds) ++ before ++
          .called slot name received handling :: (later ++ rest.flatMap (·.deeds)) ∧
      GoesStraight s m.id (.deserialization messageId reason) allowed earlier.length later rest := by
  constructor
  · rw [deeds_processWithin, deliveries, List.flatMap_append, List.flatMap_cons, called]
    simp only [List.append_assoc, List.cons_append]
  obtain ⟨v, left, leads, counted, rfl, passes⟩ := leads_of_passes deliveries
  have here : (p.entry m).address = s.address := address_of_build built
  rcases delivers_or_panicked built o m v with ⟨passage, v', ds, delivers, course⟩ | panicked
  · rw [course] at called passes
    replace called : ds = before ++ .called slot name received handling :: later := called
    have reached : .called slot name received handling ∈ ds := by simp [called]
    refine ⟨leads.soon built (delivers.undecided reached), fun now => ?_, fun after => ?_⟩
    · rw [now] at delivers
      obtain ⟨c, v₁, forwards, named, placed, kept⟩ := delivers.poisoned_now poison rfl called
      have last : (p.passes o m (left + 1) v) = _ := passes_last left (by
        rw [course]
        exact fun again => forwards.ends kept (Ended.done.inj again))
      rw [course] at last
      have only := forwards.onlyForwards (placed.trans here)
      rw [named] at only
      exact ⟨(List.cons.inj (passes.symm.trans last)).2, only⟩
    · rw [after] at delivers
      obtain ⟨none, again, pending⟩ := delivers.poisoned_later poison rfl called
      rw [again] at course passes
      refine ⟨none, fun more => ?_⟩
      obtain ⟨passage', v'', ds', forwards, invoked⟩ :=
        course_invoke_pending (m := m) built after pending o
      have last : ((p.invoke m).course o v').ended ≠ .done .aborted := by
        rw [invoked]
        exact fun again => forwards.ends rfl (Ended.done.inj again)
      rw [passes_aborted left course, show left = left - 1 + 1 by omega, passes_last _ last,
        invoked] at passes
      exact ⟨_, ds', (List.cons.inj passes).2.symm, rfl, forwards.onlyForwards here⟩
  · obtain ⟨text, v', ds, panic, course, acts⟩ := panicked
    rw [course] at called
    replace called : ds = before ++ .called slot name received handling :: later := called
    have reached : .called slot name received handling ∈ ds.filter Deed.isAct := by
      simp [called, Deed.isAct]
    rw [acts] at reached
    obtain ⟨front, back, split⟩ := List.append_of_mem (List.mem_filter.1 reached).1
    cases panic.symm.trans (handleAll_failed_call o handlers m v.outside poison split).2

/-- A cast whose handler declines the first time and cannot read the body the second time. -/
def souring : Cast where
  handlers := [{
    name := "Billing"
    script := {
      acts := [{ failure := some Cast.declined }]
      after := { failure := some { source := .deserialization "a" "no object" } } } }]
  clock := ⟨0, 0⟩

theorem souring_bypasses_retries : ∃ p,
    build (.forAddress "orders") none (handlerStages [(0, "Billing")]) = .ok p ∧
    ∃ first pass next before received handling,
      let m : Incoming := .received "a" .empty []
      let w : World CastState := ⟨.ofCapacity 1000, {}⟩
      p.passes souring.outside m 4 w = [first] ++ pass :: [next] ∧
      pass.deeds = before ++ .called 0 "Billing" received handling :: [] ∧
      handling.outcome = .failed (.deserialization "a" "no object") ∧
      ((p.processWithin m 4 0).course souring.outside w).deeds =
        [first].flatMap (·.deeds) ++ before ++
          .called 0 "Billing" received handling :: ([] ++ [next].flatMap (·.deeds)) ∧
      GoesStraight (.forAddress "orders") "a" (.deserialization "a" "no object") 4 1 [] [next] := by
  have built := build_ok (s := .forAddress "orders") rfl rfl none (handlerStages [(0, "Billing")])
  refine ⟨_, built, _, _, _, [_, _, _, _], _, _, rfl, rfl, rfl, ?_⟩
  exact poison_bypasses_retries built rfl rfl rfl

end ReceivePipeline
end Redelivery
