import Redelivery.Proofs.Delivery.Copies
import Redelivery.Proofs.Delivery.Invocation

/-! What becomes of a message, told without deliveries and without the table of failures: attempts
up to the bound of immediate retries, then the decision of the policy, then the error queue. Both
ways of dealing with failures follow it; they only differ in the message on which the decision is
carried out, as it was received or as the last attempt left it. -/
namespace Redelivery

/-- How the processing of a message ended, its failure if it failed, and what was done. -/
structure Fate (σ : Type) where
  ended : Ended (Option Failure)
  outside : σ
  deeds : List Deed

def Fate.after {σ : Type} (earlier : List Deed) (f : Fate σ) : Fate σ :=
  { f with deeds := earlier ++ f.deeds }

/-- The message on which a decision is carried out. -/
def DecisionMode.shown (mode : DecisionMode) (received attempted : Incoming) : Incoming :=
  match mode with
  | .onNextDelivery => received
  | .atOnce => attempted

namespace Outside
variable {σ : Type} (o : Outside σ)

/-- The attempts at a message, when some failed before and some are left after the next one. -/
def attempts (handlers : List (Nat × String)) (m : Incoming) (left before : Nat) (st : σ) :
    Handled σ :=
  let r := o.handleAll handlers m st
  match r.verdict with
  | .failed failure =>
    if failure.isRetryable then
      match left with
      | 0 => { r with message := r.message.retriedAtOnce before }
      | left + 1 =>
        let notice := immediateNotice before r.message failure
        (attempts handlers m left (before + 1) (o.notified notice r.outside)).after
          (r.deeds ++ [.notified notice])
    else r
  | _ => r

def forward (s : Settings) (failure : Failure) (m : Incoming) (st : σ) : Fate σ :=
  let op := faultedOperation s.errorQueue s.address m failure (o.now st)
  let st' := (o.dispatch op st).2
  match (o.dispatch op st).1.failure with
  | some refusal =>
    ⟨.done (some refusal), st', [.dispatched op (some refusal), .critical forwardAlarm refusal]⟩
  | none =>
    let notice := .faulted (m.faulted failure s.address (o.now st)) failure
    ⟨.done none, o.notified notice st', [.dispatched op none, .notified notice]⟩

def consulted (s : Settings) (asked : DelayPolicy) (failure : Failure) (m : Incoming) (st : σ) :
    Fate σ :=
  let q := DelayQuestion.about failure m
  let st' := (o.answerPolicy asked q st).2.1
  match (o.answerPolicy asked q st).1 with
  | none => (o.forward s failure m st').after [.consulted asked q none]
  | some delay =>
    let op := delayedOperation s.address m delay (o.now st')
    let st'' := (o.dispatch op st').2
    match (o.dispatch op st').1.failure with
    | some refusal =>
      (o.forward s refusal m st'').after [.consulted asked q (some delay),
        .dispatched op (some refusal), .critical delayAlarm refusal]
    | none =>
      let notice := delayedNotice m delay (o.now st') failure
      ⟨.done none, o.notified notice st'', [.consulted asked q (some delay), .dispatched op none,
        .notified notice]⟩

def decided (s : Settings) (given : Option DelayPolicy) (failure : Failure) (m : Incoming)
    (st : σ) : Fate σ :=
  match ReceivePipeline.policyOf s given with
  | some asked =>
    if failure.isRetryable then o.consulted s asked failure m st else o.forward s failure m st
  | none => o.forward s failure m st

/-- What becomes of a message. -/
def fate (s : Settings) (given : Option DelayPolicy) (handlers : List (Nat × String))
    (m : Incoming) (left before : Nat) (st : σ) : Fate σ :=
  let r := o.attempts handlers m left before st
  match r.verdict with
  | .done => ⟨.done none, r.outside, r.deeds⟩
  | .failed failure =>
    (o.decided s given failure ((ReceivePipeline.modeOf s).shown m r.message) r.outside).after
      r.deeds
  | .panicked text => ⟨.panicked text, r.outside, r.deeds⟩

end Outside

section fates
variable {σ : Type} {o : Outside σ} {handlers : List (Nat × String)} {m : Incoming} {st : σ}
  {r : Handled σ} {failure : Failure} (s : Settings) (given : Option DelayPolicy)
  (left before : Nat)

theorem hopeless_of_ending {verdict : HandlerOutcome}
    (ending : ¬∃ failure, verdict = .failed failure ∧ failure.isRetryable = true) :
    ∀ failure, verdict = .failed failure → failure.isRetryable = false := by
  intro failure failed
  exact Bool.eq_false_iff.2 fun retryable => ending ⟨failure, failed, retryable⟩

theorem attempts_ending (handled : o.handleAll handlers m st = r)
    (ending : ∀ failure, r.verdict = .failed failure → failure.isRetryable = false) :
    o.attempts handlers m left before st = r := by
  subst handled
  unfold Outside.attempts
  cases verdict : (o.handleAll handlers m st).verdict with
  | done => simp [verdict]
  | panicked text => simp [verdict]
  | failed failure => simp [verdict, ending failure verdict]

theorem attempts_usedUp (handled : o.handleAll handlers m st = r)
    (failed : r.verdict = .failed failure) (retryable : failure.isRetryable = true) :
    o.attempts handlers m 0 before st = { r with message := r.message.retriedAtOnce before } := by
  subst handled
  simp [Outside.attempts, failed, retryable]

theorem attempts_again (handled : o.handleAll handlers m st = r)
    (failed : r.verdict = .failed failure) (retryable : failure.isRetryable = true)
    {notice : Notification} (told : notice = immediateNotice before r.message failure) :
    o.attempts handlers m (left + 1) before st =
      (o.attempts handlers m left (before + 1) (o.notified notice r.outside)).after
        (r.deeds ++ [.notified notice]) := by
  subst handled told
  rw [Outside.attempts]
  simp only [failed, retryable, if_true]

theorem fate_done (handled : o.handleAll handlers m st = r) (done : r.verdict = .done) :
    o.fate s given handlers m left before st = ⟨.done none, r.outside, r.deeds⟩ := by
  simp only [Outside.fate]
  rw [attempts_ending left before handled (by simp [done]), done]

theorem fate_panicked (handled : o.handleAll handlers m st = r) {text : String}
    (panic : r.verdict = .panicked text) :
    o.fate s given handlers m left before st = ⟨.panicked text, r.outside, r.deeds⟩ := by
  simp only [Outside.fate]
  rw [attempts_ending left before handled (by simp [panic]), panic]

theorem fate_unreadable (handled : o.handleAll handlers m st = r)
    (failed : r.verdict = .failed failure) (hopeless : failure.isRetryable = false) :
    o.fate s given handlers m left before st =
      (o.decided s given failure ((ReceivePipeline.modeOf s).shown m r.message) r.outside).after
        r.deeds := by
  simp only [Outside.fate]
  rw [attempts_ending left before handled (by simp [failed, hopeless]), failed]

theorem fate_usedUp (handled : o.handleAll handlers m st = r)
    (failed : r.verdict = .failed failure) (retryable : failure.isRetryable = true) :
    o.fate s given handlers m 0 before st =
      (o.decided s given failure
        ((ReceivePipeline.modeOf s).shown m (r.message.retriedAtOnce before)) r.outside).after
        r.deeds := by
  simp only [Outside.fate]
  rw [attempts_usedUp before handled failed retryable]
  simp only [failed]

theorem fate_again (handled : o.handleAll handlers m st = r)
    (failed : r.verdict = .failed failure) (retryable : failure.isRetryable = true)
    {notice : Notification} (told : notice = immediateNotice before r.message failure) :
    o.fate s given handlers m (left + 1) before st =
      (o.fate s given handlers m left (before + 1) (o.notified notice r.outside)).after
        (r.deeds ++ [.notified notice]) := by
  simp only [Outside.fate]
  rw [attempts_again left before handled failed retryable told]
  simp only [Handled.after]
  cases (o.attempts handlers m left (before + 1) (o.notified notice r.outside)).verdict <;>
    simp [Fate.after]

theorem forward_ended (o : Outside σ) (failure : Failure) (m : Incoming) (st : σ) :
    ∃ refusal, (o.forward s failure m st).ended = .done refusal := by
  simp only [Outside.forward]
  cases (o.dispatch (faultedOperation s.errorQueue s.address m failure (o.now st)) st).1.failure with
  | none => exact ⟨_, rfl⟩
  | some refusal => exact ⟨_, rfl⟩

theorem decided_ended (o : Outside σ) (failure : Failure) (m : Incoming) (st : σ) :
    ∃ refusal, (o.decided s given failure m st).ended = .done refusal := by
  simp only [Outside.decided, Outside.consulted]
  split
  · split
    · split
      · exact forward_ended s o failure m _
      · split
        · exact forward_ended s o _ m _
        · exact ⟨_, rfl⟩
    · exact forward_ended s o failure m st
  · exact forward_ended s o failure m st

/-- Attempts end with the first whose failure is not to be retried, or when none is left. -/
theorem attempts_induction (o : Outside σ) (handlers : List (Nat × String)) (m : Incoming)
    {P : Nat → Nat → σ → Handled σ → Prop}
    (ending : ∀ left before st r, o.handleAll handlers m st = r →
      (∀ failure, r.verdict = .failed failure → failure.isRetryable = false) → P left before st r)
    (usedUp : ∀ before st r failure, o.handleAll handlers m st = r →
      r.verdict = .failed failure → failure.isRetryable = true →
      P 0 before st { r with message := r.message.retriedAtOnce before })
    (again : ∀ left before st r failure notice later, o.handleAll handlers m st = r →
      r.verdict = .failed failure → failure.isRetryable = true →
      notice = immediateNotice before r.message failure →
      P left (before + 1) (o.notified notice r.outside) later →
      P (left + 1) before st (later.after (r.deeds ++ [.notified notice])))
    (left before : Nat) (st : σ) : P left before st (o.attempts handlers m left before st) := by
  -- On the retries left; the surroundings and the attempts before change from one to the next.
  induction left generalizing before st with
  | zero =>
    by_cases absorbed : ∃ failure, (o.handleAll handlers m st).verdict = .failed failure ∧
        failure.isRetryable = true
    · obtain ⟨failure, failed, retryable⟩ := absorbed
      rw [attempts_usedUp before rfl failed retryable]
      exact usedUp before st _ failure rfl failed retryable
    · have hopeless := hopeless_of_ending absorbed
      rw [attempts_ending 0 before rfl hopeless]
      exact ending 0 before st _ rfl hopeless
  | succ left ih =>
    by_cases absorbed : ∃ failure, (o.handleAll handlers m st).verdict = .failed failure ∧
        failure.isRetryable = true
    · obtain ⟨failure, failed, retryable⟩ := absorbed
      rw [attempts_again left before rfl failed retryable rfl]
      exact again left before st _ failure _ _ rfl failed retryable rfl (ih (before + 1) _)
    · have hopeless := hopeless_of_ending absorbed
      rw [attempts_ending (left + 1) before rfl hopeless]
      exact ending (left + 1) before st _ rfl hopeless

theorem attempts_calm (calm : o.Calm handlers) (m : Incoming) (left before : Nat) (st : σ)
    (text : String) : (o.attempts handlers m left before st).verdict ≠ .panicked text := by
  apply attempts_induction o handlers m (P := fun _ _ _ r => r.verdict ≠ .panicked text)
  case ending =>
    rintro left before st r rfl _
    exact calm.verdict m st text
  case usedUp =>
    rintro before st r failure rfl _ _
    exact calm.verdict m st text
  case again =>
    intro left before st r failure notice later _ _ _ _ ih
    exact ih

theorem fate_calm (calm : o.Calm handlers) (m : Incoming) (left before : Nat) (st : σ) :
    ∃ failure, (o.fate s given handlers m left before st).ended = .done failure := by
  simp only [Outside.fate]
  cases verdict : (o.attempts handlers m left before st).verdict with
  | done => exact ⟨none, rfl⟩
  | failed failure => exact decided_ended s given o failure _ _
  | panicked text => exact absurd verdict (attempts_calm calm m left before st text)

end fates

def Processed.failure? : Processed → Option Failure
  | .settled _ => none
  | .failed failure => some failure

def Ended.failure? : Ended Processed → Ended (Option Failure)
  | .done processed => .done processed.failure?
  | .panicked text => .panicked text

theorem settled_of_fine {ended : Ended Processed} (fine : ended.failure? = .done none) :
    ∃ deliveries, ended = .done (.settled deliveries) := by
  cases ended with
  | panicked text => cases fine
  | done processed =>
    cases processed with
    | failed failure => cases fine
    | settled deliveries => exact ⟨deliveries, rfl⟩

/-- A course of processing is the fate of its message, and a settled message has no record. -/
structure Fulfils {σ : Type} (run : Course σ Processed) (f : Fate σ) (id : String) : Prop where
  ended : run.ended.failure? = f.ended
  outside : run.world.outside = f.outside
  deeds : run.deeds.filter Deed.isAct = f.deeds.filter Deed.isAct
  forgotten : f.ended = .done none → run.world.table.lookup id = none

namespace Fulfils
variable {σ : Type} {run : Course σ Processed} {f : Fate σ} {id : String}

theorem after (fulfils : Fulfils run f id) {ds ds' : List Deed}
    (same : ds.filter Deed.isAct = ds'.filter Deed.isAct) :
    Fulfils (run.after ds) (f.after ds') id where
  ended := fulfils.ended
  outside := fulfils.outside
  deeds := by simp [Fate.after, same, fulfils.deeds]
  forgotten := fulfils.forgotten

end Fulfils

section carryingOut
variable {σ : Type} {o : Outside σ} {handlers : List (Nat × String)} {mode : DecisionMode}
  {asked : DelayPolicy} {failure : Failure} {c : Context} {w w' : World σ} {p : Passage}
  {ds : List Deed} {s : Settings}

theorem Defers.faulted (defers : Defers o mode asked failure c w p w' ds) :
    p.context.message.faulted = c.message.faulted := by
  cases defers with
  | sent retryable granted left copy accepted told => rfl
  | refused retryable granted left copy refused => rfl
  | denied retryable denied left =>
    funext failure failedQueue time
    exact Incoming.faulted_removeHeader _ _ _ _
  | unasked hopeless =>
    funext failure failedQueue time
    exact Incoming.faulted_removeHeader _ _ _ _

theorem forward_congr {m m' : Incoming} (same : m.faulted = m'.faulted) (s : Settings)
    (failure : Failure) (st : σ) : o.forward s failure m st = o.forward s failure m' st := by
  simp only [Outside.forward, faultedOperation, same]

theorem Defers.consulted (defers : Defers o mode asked failure c w p w' ds)
    (here : c.address = s.address) (retryable : failure.isRetryable = true) :
    o.consulted s asked failure c.message w.outside =
      match p.failure with
      | none => ⟨.done none, w'.outside, ds⟩
      | some failure => (o.forward s failure c.message w'.outside).after ds := by
  cases defers with
  | sent retryable granted left copy accepted told =>
    subst left copy told
    simp only [Outside.consulted, granted, ← here, accepted]
  | refused retryable granted left copy refused =>
    subst left copy
    simp only [Outside.consulted, granted, ← here, refused]
  | denied retryable denied left =>
    subst left
    simp only [Outside.consulted, denied]
  | unasked hopeless => simp [hopeless] at retryable

theorem Defers.decided {given : Option DelayPolicy}
    (defers : Defers o mode asked failure c w p w' ds) (here : c.address = s.address)
    (chosen : ReceivePipeline.policyOf s given = some asked) :
    o.decided s given failure c.message w.outside =
      match p.failure with
      | none => ⟨.done none, w'.outside, ds⟩
      | some failure => (o.forward s failure c.message w'.outside).after ds := by
  simp only [Outside.decided, chosen]
  cases retryable : failure.isRetryable with
  | true => simpa using defers.consulted here retryable
  | false =>
    cases defers with
    | sent retry => cases retryable.symm.trans retry
    | refused retry => cases retryable.symm.trans retry
    | denied retry => cases retryable.symm.trans retry
    | unasked hopeless => rfl

theorem Forwards.forward (forwards : Forwards o s.errorQueue failure c w p w' ds)
    (here : c.address = s.address) :
    o.forward s failure c.message w.outside = ⟨.done p.failure, w'.outside, ds⟩ := by
  cases forwards with
  | sent copy accepted told =>
    subst copy told
    simp only [Outside.forward, ← here, accepted]
  | refused copy refused =>
    subst copy
    simp only [Outside.forward, ← here, refused]

end carryingOut

namespace ReceivePipeline
variable {σ : Type} {o : Outside σ} {handlers : List (Nat × String)} {s : Settings}
  {given : Option DelayPolicy} {p : ReceivePipeline} {m : Incoming} {w w' : World σ}
  {passage : Passage} {failure : Failure} {ds ds' : List Deed} (allowed earlier : Nat)

theorem fulfils_last (course : (p.invoke m).course o w = ⟨.done passage.delivery, w', ds⟩)
    (kept : passage.context.aborted = false)
    (same : ds.filter Deed.isAct = ds'.filter Deed.isAct)
    (forgotten : passage.failure = none → w'.table.lookup m.id = none) :
    Fulfils ((p.processWithin m (allowed + 1) earlier).course o w)
      ⟨.done passage.failure, w'.outside, ds'⟩ m.id := by
  cases failed : passage.failure with
  | none =>
    rw [Passage.delivery_completed failed kept] at course
    rw [course_processWithin_completed _ _ course]
    exact ⟨rfl, rfl, same, fun _ => forgotten failed⟩
  | some failure =>
    rw [Passage.delivery_failed failed] at course
    rw [course_processWithin_failed _ _ course]
    exact ⟨rfl, rfl, same, fun h => by cases h⟩

theorem fulfils_again {f : Fate σ}
    (course : (p.invoke m).course o w = ⟨.done passage.delivery, w', ds⟩)
    (fine : passage.failure = none) (aborted : passage.context.aborted = true)
    (same : ds.filter Deed.isAct = ds'.filter Deed.isAct)
    (rest : Fulfils ((p.processWithin m allowed (earlier + 1)).course o w') f m.id) :
    Fulfils ((p.processWithin m (allowed + 1) earlier).course o w) (f.after ds') m.id := by
  rw [Passage.delivery_aborted fine aborted] at course
  rw [course_processWithin_aborted _ _ course]
  exact rest.after same

theorem fulfils_forward (built : build s given (handlerStages handlers) = .ok p)
    (later : modeOf s = .onNextDelivery) (pending : w.table.pendingForward m.id = some failure) :
    Fulfils ((p.processWithin m (allowed + 1) earlier).course o w)
      (o.forward s failure m w.outside) m.id := by
  obtain ⟨passage, w', ds, forwards⟩ := exists_forwards o s.errorQueue failure (p.entry m) w
  have delivers : Delivers o handlers s.immediateRetries.toNat (modeOf s) (policyOf s given)
      s.errorQueue (p.entry m) w passage w' _ := .resumed later pending forwards
  have course := course_invoke_of_delivers built delivers
  have here : (p.entry m).address = s.address := address_of_build built
  have fate := forwards.forward here
  simp only [entry] at fate
  rw [fate]
  exact fulfils_last _ _ course forwards.aborted rfl forwards.forgotten

theorem fulfils_postponed (built : build s given (handlerStages handlers) = .ok p)
    (later : modeOf s = .onNextDelivery) (fresh : w.table.pendingForward m.id = none)
    {policy : Option DelayPolicy} (chosen : policyOf s given = policy)
    (delays : Delays o handlers s.immediateRetries.toNat (modeOf s) (p.entry m) w policy passage
      w' ds)
    (failed : passage.failure = some failure)
    (same : ds.filter Deed.isAct = ds'.filter Deed.isAct) :
    Fulfils ((p.processWithin m (allowed + 2) earlier).course o w)
      ((o.forward s failure m w'.outside).after ds') m.id := by
  subst chosen
  have course := course_invoke_of_delivers built (.postponed later fresh delays failed)
  refine fulfils_again _ _ course rfl rfl same ?_
  have pending := FailureTable.pendingForward_record_self w'.table m.id failure true false
  exact fulfils_forward (w := { w' with table := _ }) _ _ built later pending

theorem fulfils_consulted (built : build s given (handlerStages handlers) = .ok p)
    (later : modeOf s = .onNextDelivery) {asked : DelayPolicy}
    (chosen : policyOf s given = some asked) (fresh : w.table.pendingForward m.id = none)
    (pending : w.table.pendingDelay m.id = some failure) (retryable : failure.isRetryable = true) :
    Fulfils ((p.processWithin m (allowed + 2) earlier).course o w)
      (o.consulted s asked failure m w.outside) m.id := by
  obtain ⟨passage, w', ds, defers⟩ := exists_defers o (modeOf s) asked failure (p.entry m) w
  have here : (p.entry m).address = s.address := address_of_build built
  have fate := defers.consulted here retryable
  have delays : Delays o handlers s.immediateRetries.toNat (modeOf s) (p.entry m) w
      (some asked) passage w' _ := .resumed later pending defers
  simp only [entry] at fate
  rw [fate]
  cases failed : passage.failure with
  | some failure => exact fulfils_postponed _ _ built later fresh chosen delays failed rfl
  | none =>
    rw [← chosen] at delays
    have course := course_invoke_of_delivers built (.passed (fun _ => fresh) delays failed)
    have last : Fulfils ((p.processWithin m (allowed + 2) earlier).course o w)
        ⟨.done passage.failure, w'.outside, ds⟩ m.id :=
      fulfils_last _ _ course defers.aborted rfl defers.forgotten
    rw [failed] at last
    exact last

theorem fulfils_decided_later (built : build s given (handlerStages handlers) = .ok p)
    (later : modeOf s = .onNextDelivery) (unforwarded : w.table.pendingForward m.id = none)
    (undelayed : w.table.pendingDelay m.id = none)
    (tries : Tries o handlers s.immediateRetries.toNat (p.entry m) w passage w' ds)
    (failed : passage.failure = some failure) :
    Fulfils ((p.processWithin m (allowed + 3) earlier).course o w)
      ((o.decided s given failure m w'.outside).after ds) m.id := by
  unfold Outside.decided
  cases chosen : policyOf s given with
  | none =>
    exact fulfils_postponed _ _ built later unforwarded chosen (.absent tries) failed
      (by simp [attemptDeeds, Deed.isAct])
  | some asked =>
    cases retryable : failure.isRetryable with
    | false =>
      simp only [Bool.false_eq_true, if_false]
      exact fulfils_postponed _ _ built later unforwarded chosen
        (.unreadable later undelayed tries failed retryable) rfl
        (by simp [attemptDeeds, Deed.isAct])
    | true =>
      have delays : Delays o handlers s.immediateRetries.toNat (modeOf s) (p.entry m) w
          (some asked) _ _ _ := .postponed later undelayed tries failed retryable
      rw [← chosen] at delays
      have course := course_invoke_of_delivers built (.passed (fun _ => unforwarded) delays rfl)
      simp only [if_true]
      refine fulfils_again _ _ course rfl rfl (by simp [attemptDeeds, Deed.isAct]) ?_
      have unforwarded' := FailureTable.pendingForward_record_self w'.table m.id failure false true
      have pending := FailureTable.pendingDelay_record_self w'.table m.id failure false true
      exact fulfils_consulted (w := { w' with table := _ }) _ _ built later chosen unforwarded' pending
        retryable

theorem fulfils_forward_now (built : build s given (handlerStages handlers) = .ok p)
    (now : modeOf s = .atOnce) {policy : Option DelayPolicy} (chosen : policyOf s given = policy)
    (delays : Delays o handlers s.immediateRetries.toNat (modeOf s) (p.entry m) w policy passage
      w' ds)
    (failed : passage.failure = some failure) (kept : passage.context.aborted = false)
    {shown : Incoming} (alike : passage.context.message.faulted = shown.faulted)
    (same : ds.filter Deed.isAct = ds'.filter Deed.isAct) :
    Fulfils ((p.processWithin m (allowed + 1) earlier).course o w)
      ((o.forward s failure shown w'.outside).after ds') m.id := by
  subst chosen
  obtain ⟨passage', w'', ds'', forwards⟩ :=
    exists_forwards o s.errorQueue failure passage.context w'
  have here : passage.context.address = s.address := delays.keeps.2.trans (address_of_build built)
  have course := course_invoke_of_delivers built (.forwarded now delays failed forwards)
  have forgotten := forwards.forgotten
  rw [delays.keeps.1] at forgotten
  rw [← forward_congr alike, forwards.forward here]
  refine fulfils_last _ _ course (forwards.aborted.trans kept) ?_ forgotten
  simp [same, Deed.isAct]

theorem fulfils_decided_now (built : build s given (handlerStages handlers) = .ok p)
    (now : modeOf s = .atOnce)
    (tries : Tries o handlers s.immediateRetries.toNat (p.entry m) w passage w' ds)
    (failed : passage.failure = some failure) :
    Fulfils ((p.processWithin m (allowed + 1) earlier).course o w)
      ((o.decided s given failure passage.context.message w'.outside).after ds) m.id := by
  have kept : passage.context.aborted = false := tries.aborted failed
  cases chosen : policyOf s given with
  | none =>
    simp only [Outside.decided, chosen]
    exact fulfils_forward_now _ _ built now chosen (.absent tries) failed kept rfl
      (by simp [attemptDeeds, Deed.isAct])
  | some asked =>
    obtain ⟨passage', w'', ds', defers⟩ := exists_defers o (modeOf s) asked failure
      passage.context w'
    have here : passage.context.address = s.address := tries.keeps.2.trans (address_of_build built)
    have delays : Delays o handlers s.immediateRetries.toNat (modeOf s) (p.entry m) w
        (some asked) passage' w'' _ := .decided now tries failed defers
    rw [defers.decided here chosen]
    cases failed' : passage'.failure with
    | some failure' =>
      have last : Fulfils ((p.processWithin m (allowed + 1) earlier).course o w)
          ((o.forward s failure' passage.context.message w''.outside).after (ds ++ ds')) m.id :=
        fulfils_forward_now _ _ built now chosen delays failed' (defers.aborted.trans kept)
          defers.faulted (by simp [attemptDeeds, Deed.isAct])
      simpa [Fate.after] using last
    | none =>
      rw [← chosen] at delays
      have course := course_invoke_of_delivers built
        (.passed (fun later => by cases now.symm.trans later) delays failed')
      have forgotten := defers.forgotten
      rw [tries.keeps.1] at forgotten
      have last : Fulfils ((p.processWithin m (allowed + 1) earlier).course o w)
          ⟨.done passage'.failure, w''.outside, ds ++ ds'⟩ m.id :=
        fulfils_last _ _ course (defers.aborted.trans kept) (by simp [attemptDeeds, Deed.isAct])
          forgotten
      rw [failed'] at last
      exact last

theorem fulfils_panicked (built : build s given (handlerStages handlers) = .ok p)
    (plain : modeOf s = .onNextDelivery →
      w.table.pendingForward m.id = none ∧ w.table.pendingDelay m.id = none)
    {r : Handled σ} {text : String} (handled : o.handleAll handlers m w.outside = r)
    (panic : r.verdict = .panicked text) :
    Fulfils ((p.processWithin m (allowed + 1) earlier).course o w)
      ⟨.panicked text, r.outside, r.deeds⟩ m.id := by
  have undecided : w.table.Undecided (modeOf s) (policyOf s given) (p.entry m).message.id :=
    fun later => (plain later).imp_right .inr
  obtain ⟨ds, way, acts⟩ := course_allStages_panicked undecided handled panic s.errorQueue
    s.immediateRetries.toNat
  rw [← stages_of_handlers built] at way
  rw [course_processWithin_panicked _ _ (course_invoke_panicked way)]
  exact ⟨rfl, rfl, acts, fun h => by cases h⟩

theorem delivers_of_tries (built : build s given (handlerStages handlers) = .ok p)
    (plain : modeOf s = .onNextDelivery →
      w.table.pendingForward m.id = none ∧ w.table.pendingDelay m.id = none)
    (tries : Tries o handlers s.immediateRetries.toNat (p.entry m) w passage w' ds)
    (fine : passage.failure = none) :
    ∃ ds', (p.invoke m).course o w = ⟨.done passage.delivery, w', ds'⟩ ∧
      ds'.filter Deed.isAct = ds.filter Deed.isAct := by
  have unforwarded := fun later => (plain later).1
  cases chosen : policyOf s given with
  | none =>
    have delays : Delays o handlers s.immediateRetries.toNat (modeOf s) (p.entry m) w none passage
        w' _ := .absent tries
    rw [← chosen] at delays
    exact ⟨_, course_invoke_of_delivers built (.passed unforwarded delays fine),
      by simp [attemptDeeds, Deed.isAct]⟩
  | some asked =>
    have delays : Delays o handlers s.immediateRetries.toNat (modeOf s) (p.entry m) w (some asked)
        passage w' _ := .passed (fun later => (plain later).2) tries fine
    rw [← chosen] at delays
    exact ⟨_, course_invoke_of_delivers built (.passed unforwarded delays fine),
      by simp [attemptDeeds, Deed.isAct]⟩

theorem fulfils_decided (built : build s given (handlerStages handlers) = .ok p)
    (plain : modeOf s = .onNextDelivery →
      w.table.pendingForward m.id = none ∧ w.table.pendingDelay m.id = none)
    (tries : Tries o handlers s.immediateRetries.toNat (p.entry m) w passage w' ds)
    (failed : passage.failure = some failure) :
    Fulfils ((p.processWithin m (allowed + 3) earlier).course o w)
      ((o.decided s given failure ((modeOf s).shown m passage.context.message) w'.outside).after ds)
      m.id := by
  cases mode : modeOf s with
  | onNextDelivery =>
    exact fulfils_decided_later _ _ built mode (plain mode).1 (plain mode).2 tries failed
  | atOnce => exact fulfils_decided_now _ _ built mode tries failed

theorem fulfils_fate_last (built : build s given (handlerStages handlers) = .ok p) (left : Nat)
    (plain : modeOf s = .onNextDelivery →
      w.table.pendingForward m.id = none ∧ w.table.pendingDelay m.id = none)
    (counted : s.immediateRetries.toNat - w.table.attempts m.id = left)
    {r : Handled σ} (handled : o.handleAll handlers m w.outside = r)
    (last : ∀ failure, r.verdict = .failed failure → failure.isRetryable = true → left = 0) :
    Fulfils ((p.processWithin m (allowed + 3) earlier).course o w)
      (o.fate s given handlers m left (w.table.attempts m.id) w.outside) m.id := by
  cases verdict : r.verdict with
  | done =>
    have tries : Tries o handlers s.immediateRetries.toNat (p.entry m) w
        { context := { p.entry m with message := r.message } }
        { table := w.table.clear m.id, outside := r.outside } r.deeds := .succeeded handled verdict
    obtain ⟨ds', course, acts⟩ := delivers_of_tries built plain tries rfl
    rw [fate_done s given left _ handled verdict]
    exact fulfils_last _ _ course rfl acts (fun _ => FailureTable.lookup_clear_self _ _)
  | panicked text =>
    rw [fate_panicked s given left _ handled verdict]
    exact fulfils_panicked _ _ built plain handled verdict
  | failed failure =>
    cases retryable : failure.isRetryable with
    | false =>
      have tries : Tries o handlers s.immediateRetries.toNat (p.entry m) w
          { context := { p.entry m with message := r.message }, failure := some failure }
          { w with outside := r.outside } r.deeds := .unreadable handled verdict retryable
      rw [fate_unreadable s given left _ handled verdict retryable]
      have decided := fulfils_decided allowed earlier built plain tries rfl
      exact decided
    | true =>
      have none := last failure verdict retryable
      subst none
      have spent : s.immediateRetries.toNat ≤ w.table.attempts m.id := by omega
      have tries : Tries o handlers s.immediateRetries.toNat (p.entry m) w
          { context := { p.entry m with
              message := r.message.retriedAtOnce (w.table.attempts m.id) },
            failure := some failure }
          { table := w.table.clear m.id, outside := r.outside } r.deeds :=
        .usedUp handled verdict retryable spent
      rw [fate_usedUp s given _ handled verdict retryable]
      have decided := fulfils_decided allowed earlier built plain tries rfl
      exact decided

/-- Processing a message fulfils its fate, if no failure of it waits for the next delivery. -/
theorem fulfils_fate (built : build s given (handlerStages handlers) = .ok p) (left : Nat)
    (plain : modeOf s = .onNextDelivery →
      w.table.pendingForward m.id = none ∧ w.table.pendingDelay m.id = none)
    (counted : s.immediateRetries.toNat - w.table.attempts m.id = left) :
    Fulfils ((p.processWithin m (allowed + left + 3) earlier).course o w)
      (o.fate s given handlers m left (w.table.attempts m.id) w.outside) m.id := by
  -- On the attempts left. The record counts those before, so it is what joins two deliveries.
  induction left generalizing w earlier with
  | zero => exact fulfils_fate_last _ _ built 0 plain counted rfl fun _ _ _ => rfl
  | succ left ih =>
    obtain ⟨r, handled⟩ : ∃ r, o.handleAll handlers m w.outside = r := ⟨_, rfl⟩
    by_cases absorbed : ∃ failure, r.verdict = .failed failure ∧ failure.isRetryable = true
    · -- Only such an attempt is followed by another, with one attempt less left.
      obtain ⟨failure, failed, retryable⟩ := absorbed
      obtain ⟨notice, told⟩ : ∃ notice, notice =
        immediateNotice (w.table.attempts m.id) r.message failure := ⟨_, rfl⟩
      obtain ⟨w', recorded⟩ : ∃ w' : World σ, w' =
        ⟨(w.table.record m.id failure false false).1, o.notified notice r.outside⟩ := ⟨_, rfl⟩
      have more : w.table.attempts m.id < s.immediateRetries.toNat := by omega
      have tries : Tries o handlers s.immediateRetries.toNat (p.entry m) w
          { context := { p.entry m with message := r.message, aborted := true } } w'
          (r.deeds ++ [.notified notice]) :=
        recorded ▸ .absorbed handled failed retryable more told
      obtain ⟨ds', course, acts⟩ := delivers_of_tries built plain tries rfl
      have attempts : w'.table.attempts m.id = w.table.attempts m.id + 1 := by
        rw [recorded]
        exact FailureTable.attempts_record_self w.table m.id failure false false
      have unpending : w'.table.pendingForward m.id = none ∧ w'.table.pendingDelay m.id = none := by
        rw [recorded]
        exact ⟨FailureTable.pendingForward_record_self w.table m.id failure false false,
          FailureTable.pendingDelay_record_self w.table m.id failure false false⟩
      have rest := ih (earlier + 1) (fun _ => unpending) (by omega)
      rw [attempts, show w'.outside = o.notified notice r.outside by rw [recorded]] at rest
      rw [fate_again s given left _ handled failed retryable told]
      exact fulfils_again _ _ course rfl rfl acts rest
    · exact fulfils_fate_last _ _ built _ plain counted handled fun failure failed retryable =>
        absurd ⟨failure, failed, retryable⟩ absorbed

theorem process_fulfils_fate (built : build s given (handlerStages handlers) = .ok p)
    (unrecorded : w.table.lookup m.id = none)
    (room : s.immediateRetries.toNat + 3 ≤ allowed) :
    Fulfils ((p.processWithin m allowed earlier).course o w)
      (o.fate s given handlers m s.immediateRetries.toNat 0 w.outside) m.id := by
  have attempts : w.table.attempts m.id = 0 := by simp [FailureTable.attempts, unrecorded]
  have unpending : w.table.pendingForward m.id = none ∧ w.table.pendingDelay m.id = none := by
    simp [FailureTable.pendingForward, FailureTable.pendingDelay, unrecorded]
  have fulfils := fulfils_fate (o := o) (m := m) (allowed - s.immediateRetries.toNat - 3) earlier
    built s.immediateRetries.toNat (fun _ => unpending) (by rw [attempts]; rfl)
  rw [attempts] at fulfils
  rwa [show allowed - s.immediateRetries.toNat - 3 + s.immediateRetries.toNat + 3 = allowed by
    omega] at fulfils

end ReceivePipeline
end Redelivery
