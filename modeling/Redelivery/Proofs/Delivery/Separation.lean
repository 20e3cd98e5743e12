import Redelivery.Pipeline.Probe
import Redelivery.Proofs.Delivery.Outcome

/-! An endpoint's own stages and the dispatcher never share a delivery where a receive can be
aborted. The own stages may be anything that leaves the table of failures and the dispatcher alone.
What is sent for a failure is sent by a delivery that enters none of them. In no mode is a delivery
aborted after it sent something, unless an own stage asks for that. -/
namespace Redelivery

def Flow.only {α : Type} (allowed : Request → Prop) : Flow α → Prop
  | .done _ => True
  | .panicked _ => True
  | .ask r next => allowed r ∧ ∀ answer, (next answer).only allowed

theorem Flow.only_bind {α β : Type} {allowed : Request → Prop} {x : Flow α} {f : α → Flow β}
    (first : x.only allowed) (rest : ∀ a, (f a).only allowed) : (x >>= f).only allowed := by
  change (x.bind f).only allowed
  induction x with
  | done a => exact rest a
  | panicked text => exact trivial
  | ask r next ih => exact ⟨first.1, fun answer => ih answer (first.2 answer)⟩

def Request.leavesAlone : Request → Prop
  | .lookup _ => False
  | .record .. => False
  | .clear _ => False
  | .dispatch _ => False
  | _ => True

/-- A stage that leaves them alone, if the rest of the chain does. -/
def Stage.LeavesAlone (stage : Stage) : Prop :=
  ∀ rest : Way, (∀ c, (rest c).only Request.leavesAlone) →
    ∀ c, (stage.behaviour rest c).only Request.leavesAlone

theorem only_runStages {own : List Stage} (alone : ∀ stage ∈ own, stage.LeavesAlone) (c : Context) :
    (runStages own c).only Request.leavesAlone := by
  induction own generalizing c with
  | nil => exact trivial
  | cons stage own ih =>
    have rest := ih fun other member => alone other (List.mem_cons_of_mem _ member)
    exact ⟨trivial, fun _ => alone stage List.mem_cons_self _ rest c⟩

theorem only_logAll (entries : List LogEntry) :
    (Flow.logAll entries).only Request.leavesAlone := by
  induction entries with
  | nil => exact trivial
  | cons entry rest ih => exact ⟨trivial, fun _ => ih⟩

theorem ofHandler_leavesAlone (slot : Nat) (name : String) :
    (Stage.ofHandler slot name).LeavesAlone := by
  intro rest alone c
  simp only [Stage.ofHandler, Stage.handling]
  refine Flow.only_bind ⟨trivial, fun _ => trivial⟩ fun handling => ?_
  refine Flow.only_bind ⟨trivial, fun _ => trivial⟩ fun _ => ?_
  refine Flow.only_bind (only_logAll _) fun _ => ?_
  cases handling.outcome with
  | done => exact alone _
  | failed failure => exact trivial
  | panicked text => exact trivial

theorem Probe.leavesAlone (probe : Probe) (name : String) :
    (⟨name, probe.behaviour⟩ : Stage).LeavesAlone := by
  intro rest alone c
  cases probe with
  | watch label =>
    refine Flow.only_bind ⟨trivial, fun _ => trivial⟩ fun _ => ?_
    refine Flow.only_bind (alone c) fun p => ?_
    exact Flow.only_bind ⟨trivial, fun _ => trivial⟩ fun _ => trivial
  | shortCircuit => exact trivial
  | abort => exact alone _
  | twice =>
    refine Flow.only_bind (alone c) fun p => ?_
    cases p.failure with
    | none => exact alone _
    | some failure => exact trivial
  | swallow =>
    refine Flow.only_bind (alone c) fun p => ?_
    cases p.failure with
    | none => exact trivial
    | some failure => exact Flow.only_bind ⟨trivial, fun _ => trivial⟩ fun _ => trivial
  | replaceBody body => exact alone _
  | fail failure => exact Flow.only_bind (alone c) fun _ => trivial

def Tally.dispatches (n : Tally) : Nat := n.sent.length + n.refused.length

section alone
variable {σ : Type} (o : Outside σ)

theorem dispatches_of_only {α : Type} {x : Flow α} (only : x.only Request.leavesAlone)
    (w : World σ) : (tally (x.deeds o w)).sent = [] ∧ (tally (x.deeds o w)).refused = [] := by
  induction x generalizing w with
  | done a => exact ⟨rfl, rfl⟩
  | panicked text => exact ⟨rfl, rfl⟩
  | ask r next ih =>
    obtain ⟨allowed, rest⟩ := only
    have later := ih (o.answer w r).1 (rest _) (o.answer w r).2.1
    have here : (tally (r.deed? (o.answer w r).1).toList).sent = [] ∧
        (tally (r.deed? (o.answer w r).1).toList).refused = [] := by
      cases r with
      | dispatch op => exact absurd allowed id
      | _ => exact ⟨rfl, rfl⟩
    simp only [Flow.deeds, tally_append, Tally.sent_add, Tally.refused_add]
    exact ⟨by rw [here.1, later.1]; rfl, by rw [here.2, later.2]; rfl⟩

end alone

def Passage.Absorbs (p p' : Passage) : Prop :=
  p'.failure = p.failure ∧ p'.context.aborted = p.context.aborted ∨
    p.failure ≠ none ∧ p'.failure = none ∧ p'.context.aborted = true

/-- The course of a stage that entered no other stage and dispatched nothing after the rest. -/
inductive Watched {σ : Type} : Course σ Passage → Course σ Passage → Prop where
  | panicked (text : String) (w : World σ) (ds : List Deed) :
      Watched ⟨.panicked text, w, ds⟩ ⟨.panicked text, w, ds⟩
  | done {p p' : Passage} {w w' : World σ} {ds later : List Deed} (idle : tally later = {})
      (absorbs : p.Absorbs p') : Watched ⟨.done p, w, ds⟩ ⟨.done p', w', ds ++ later⟩

def Course.Guarded {σ : Type} (x : Course σ Passage) : Prop :=
  ∀ p, x.ended = .done p →
    (p.failure ≠ none ∨ p.context.aborted = true → x.tally.sent = []) ∧
      (p.failure ≠ none → p.context.aborted = false)

section stages
variable {σ : Type} {o : Outside σ} {c : Context} {w : World σ} {inner x : Course σ Passage}

theorem Watched.guarded (watched : Watched inner x) (guarded : inner.Guarded) : x.Guarded := by
  cases watched with
  | panicked text w ds => exact guarded
  | done idle absorbs =>
    intro p' ended
    cases ended
    obtain ⟨unsent, kept⟩ := guarded _ rfl
    simp only [Course.tally, tally_append, idle, Tally.sent_add, List.append_nil] at unsent ⊢
    rcases absorbs with ⟨failure, aborted⟩ | ⟨failed, fine, aborted⟩
    · rw [failure, aborted]
      exact ⟨unsent, kept⟩
    · exact ⟨fun _ => unsent (.inl failed), fun again => absurd fine again⟩

theorem watched_bind {rest : Flow Passage} {f : Passage → Flow Passage}
    (each : ∀ p w, ∃ p' w' later, (f p).course o w = ⟨.done p', w', later⟩ ∧ tally later = {} ∧
      p.Absorbs p') :
    Watched (rest.course o w) ((rest >>= f).course o w) := by
  rw [Flow.course_bind]
  obtain ⟨ended, w', ds⟩ := rest.course o w
  cases ended with
  | panicked text => exact .panicked text w' ds
  | done p =>
    obtain ⟨p', w'', later, course, idle, absorbs⟩ := each p w'
    simp only [course, Course.after_mk]
    exact .done idle absorbs

theorem watched_immediateRetries (bound : Nat) (rest : Way) :
    Watched ((rest c).course o w) ((Stage.immediateRetries bound rest c).course o w) := by
  simp only [Stage.immediateRetries, Flow.course_lookup]
  refine watched_bind fun p w' => ?_
  cases failed : p.failure with
  | none => exact ⟨p, _, [], rfl, rfl, .inl ⟨rfl, rfl⟩⟩
  | some failure =>
    cases retryable : failure.isRetryable with
    | false =>
      refine ⟨p, w', [], ?_, rfl, .inl ⟨rfl, rfl⟩⟩
      simp [retryable, Flow.course_pure]
    | true =>
      cases spent : givesUp bound ((w.table.lookup c.message.id).map (·.attempts)|>.getD 0) with
      | true =>
        simp only [retryable, if_true, Stage.immediateRetriesUsedUp]
        exact ⟨_, _, [], rfl, rfl, .inl ⟨failed.symm, rfl⟩⟩
      | false =>
        simp only [retryable, if_true, Bool.false_eq_true, if_false, Stage.retryAtOnce]
        exact ⟨_, _, [.notified _], rfl, rfl, .inr ⟨by simp [failed], rfl, rfl⟩⟩

theorem watched_delayedRetries {policy : DelayPolicy}
    (fresh : w.table.pendingDelay c.message.id = none) (rest : Way) :
    Watched ((rest c).course o w)
      ((Stage.delayedRetries .onNextDelivery policy rest c).course o w) := by
  rw [course_delayedRetries_fresh fresh]
  refine watched_bind fun p w' => ?_
  cases failed : p.failure with
  | none => exact ⟨p, w', [], rfl, rfl, .inl ⟨rfl, rfl⟩⟩
  | some failure =>
    cases retryable : failure.isRetryable with
    | true =>
      simp only [retryable, if_true, Stage.postponeDelay]
      exact ⟨_, _, [], rfl, rfl, .inr ⟨by simp [failed], rfl, rfl⟩⟩
    | false =>
      simp only [retryable, Bool.false_eq_true, if_false, course_delayedRetriesUsedUp]
      exact ⟨_, _, [], rfl, rfl, .inl ⟨failed.symm, rfl⟩⟩

theorem watched_errorForward {errorQueue : String}
    (fresh : w.table.pendingForward c.message.id = none) (rest : Way) :
    Watched ((rest c).course o w)
      ((Stage.errorForward .onNextDelivery errorQueue rest c).course o w) := by
  rw [course_errorForward_fresh fresh]
  refine watched_bind fun p w' => ?_
  cases failed : p.failure with
  | none => exact ⟨p, w', [], rfl, rfl, .inl ⟨rfl, rfl⟩⟩
  | some failure =>
    simp only [Stage.postponeForward]
    exact ⟨_, _, [], rfl, rfl, .inr ⟨by simp [failed], rfl, rfl⟩⟩

theorem Defers.guarded {mode : DecisionMode} {policy : DelayPolicy} {failure : Failure}
    {p : Passage} {w' : World σ} {ds : List Deed}
    (defers : Defers o mode policy failure c w p w' ds) (kept : c.aborted = false)
    (before : List Deed) (unsent : (tally before).sent = []) :
    Course.Guarded (⟨.done p, w', before ++ ds⟩ : Course σ Passage) := by
  intro p' ended
  cases ended
  have aborted := defers.aborted.trans kept
  refine ⟨fun failed => ?_, fun _ => aborted⟩
  simp only [Course.tally, tally_append, Tally.sent_add, unsent, List.nil_append]
  rcases failed with failed | again
  · cases defers with
    | sent => exact absurd rfl failed
    | refused => rfl
    | denied => rfl
    | unasked => rfl
  · cases aborted.symm.trans again

theorem Forwards.guarded {errorQueue : String} {failure : Failure} {p : Passage} {w' : World σ}
    {ds : List Deed} (forwards : Forwards o errorQueue failure c w p w' ds)
    (kept : c.aborted = false) (before : List Deed) (unsent : (tally before).sent = []) :
    Course.Guarded (⟨.done p, w', before ++ ds⟩ : Course σ Passage) := by
  intro p' ended
  cases ended
  have aborted := forwards.aborted.trans kept
  refine ⟨fun failed => ?_, fun _ => aborted⟩
  simp only [Course.tally, tally_append, Tally.sent_add, unsent, List.nil_append]
  rcases failed with failed | again
  · cases forwards with
    | sent => exact absurd rfl failed
    | refused => rfl
  · cases aborted.symm.trans again

theorem guarded_bind {rest : Flow Passage} {f : Passage → Flow Passage}
    (each : ∀ p w' ds, rest.course o w = ⟨.done p, w', ds⟩ →
      (((f p).course o w').after ds).Guarded) : ((rest >>= f).course o w).Guarded := by
  rw [Flow.course_bind]
  cases ran : rest.course o w with
  | mk ended w' ds =>
    cases ended with
    | panicked text =>
      intro p ended
      cases ended
    | done p => exact each p w' ds ran

theorem guarded_delayedRetries {policy : DelayPolicy} {rest : Way} (kept : c.aborted = false)
    (guarded : ((rest c).course o w).Guarded) (mode : DecisionMode) :
    ((Stage.delayedRetries mode policy rest c).course o w).Guarded := by
  cases mode with
  | onNextDelivery =>
    cases pending : w.table.pendingDelay c.message.id with
    | none => exact (watched_delayedRetries pending rest).guarded guarded
    | some failure =>
      obtain ⟨p, w', ds, defers⟩ := exists_defers o .onNextDelivery policy failure c w
      have course := defers.course
      simp only [DecisionMode.decide] at course
      rw [course_delayedRetries_pending pending, course]
      exact defers.guarded kept [] rfl
  | atOnce =>
    simp only [Stage.delayedRetries]
    refine guarded_bind fun p w' ds ran => ?_
    rw [ran] at guarded
    obtain ⟨unsent, unaborted⟩ := guarded p rfl
    cases failed : p.failure with
    | none =>
      simp only [Flow.course_pure, Course.after_mk, List.append_nil]
      exact guarded
    | some failure =>
      have fails : p.failure ≠ none := by simp [failed]
      obtain ⟨p', w'', ds', defers⟩ := exists_defers o .atOnce policy failure p.context w'
      have course := defers.course
      simp only [DecisionMode.decide] at course
      simp only [course, Course.after_mk]
      exact defers.guarded (unaborted fails) ds (unsent (.inl fails))

theorem guarded_errorForward {errorQueue : String} {rest : Way} (kept : c.aborted = false)
    (guarded : ((rest c).course o w).Guarded) (mode : DecisionMode) :
    ((Stage.errorForward mode errorQueue rest c).course o w).Guarded := by
  cases mode with
  | onNextDelivery =>
    cases pending : w.table.pendingForward c.message.id with
    | none => exact (watched_errorForward pending rest).guarded guarded
    | some failure =>
      obtain ⟨p, w', ds, forwards⟩ := exists_forwards o errorQueue failure c w
      rw [course_errorForward_pending pending, forwards.course]
      exact forwards.guarded kept [] rfl
  | atOnce =>
    simp only [Stage.errorForward]
    refine guarded_bind fun p w' ds ran => ?_
    rw [ran] at guarded
    obtain ⟨unsent, unaborted⟩ := guarded p rfl
    cases failed : p.failure with
    | none =>
      simp only [Flow.course_pure, Course.after_mk, List.append_nil]
      exact guarded
    | some failure =>
      have fails : p.failure ≠ none := by simp [failed]
      obtain ⟨p', w'', ds', forwards⟩ := exists_forwards o errorQueue failure p.context w'
      simp only [forwards.course, Course.after_mk]
      exact forwards.guarded (unaborted fails) ds (unsent (.inl fails))

theorem Course.Guarded.entered (guarded : x.Guarded) (stage id : String) :
    (x.after [.entered stage id]).Guarded := by
  intro p ended
  exact guarded p ended

/-- The deeds of a delivery: those of the own stages between the names of the others, or, if no
own stage is entered, at most one dispatch after the first few names of the others. -/
inductive Apart (names : List String) (mine : List Deed) : List Deed → Prop where
  | reached {front later : List Deed} (before : (tally front).entered = names)
      (uncalled : (tally front).outcomes = []) (undispatched : (tally front).dispatches = 0)
      (after : tally later = {}) : Apart names mine (front ++ mine ++ later)
  | spared {ds : List Deed} (before : (tally ds).entered <+: names)
      (uncalled : (tally ds).outcomes = []) (once : (tally ds).dispatches ≤ 1) :
      Apart names mine ds

theorem Apart.entered {names : List String} {mine ds : List Deed} (apart : Apart names mine ds)
    (stage id : String) : Apart (stage :: names) mine (.entered stage id :: ds) := by
  cases apart with
  | @reached front later before uncalled undispatched after =>
    have reached : Apart (stage :: names) mine (.entered stage id :: front ++ mine ++ later) :=
      .reached (congrArg (stage :: ·) before) uncalled undispatched after
    exact reached
  | spared before uncalled once =>
    exact .spared (List.cons_prefix_cons.2 ⟨rfl, before⟩) uncalled once

theorem Watched.apart (watched : Watched inner x) {names : List String} {mine : List Deed}
    (apart : Apart names mine inner.deeds) : Apart names mine x.deeds := by
  cases watched with
  | panicked text w ds => exact apart
  | @done p p' w w' ds more idle absorbs =>
    change Apart names mine ds at apart
    change Apart names mine (ds ++ more)
    cases apart with
    | @reached front later before uncalled undispatched after =>
      rw [List.append_assoc]
      refine .reached before uncalled undispatched ?_
      rw [tally_append, after, idle]
      rfl
    | spared before uncalled once =>
      have same : tally (ds ++ more) = tally ds := by
        rw [tally_append, idle]
        simp [Tally.add]
      exact .spared (same ▸ before) (same ▸ uncalled) (same ▸ once)

theorem Defers.once {mode : DecisionMode} {policy : DelayPolicy} {failure : Failure} {p : Passage}
    {w' : World σ} {ds : List Deed} (defers : Defers o mode policy failure c w p w' ds) :
    (tally ds).dispatches ≤ 1 := by
  cases defers <;> simp [Tally.dispatches, Deed.tally]

theorem Forwards.once {errorQueue : String} {failure : Failure} {p : Passage} {w' : World σ}
    {ds : List Deed} (forwards : Forwards o errorQueue failure c w p w' ds) :
    (tally ds).dispatches ≤ 1 := by
  cases forwards <;> simp [Tally.dispatches, Deed.tally]

theorem apart_delayedRetries (policy : DelayPolicy) {rest : Way} {names : List String}
    {mine : List Deed} (apart : Apart names mine ((rest c).course o w).deeds) :
    Apart names mine ((Stage.delayedRetries .onNextDelivery policy rest c).course o w).deeds := by
  cases pending : w.table.pendingDelay c.message.id with
  | none => exact (watched_delayedRetries pending rest).apart apart
  | some failure =>
    obtain ⟨p, w', ds, defers⟩ := exists_defers o .onNextDelivery policy failure c w
    have course := defers.course
    simp only [DecisionMode.decide] at course
    rw [course_delayedRetries_pending pending, course]
    exact .spared (defers.no_attempt.1 ▸ List.nil_prefix) defers.no_attempt.2 defers.once

theorem apart_errorForward (errorQueue : String) {rest : Way} {names : List String}
    {mine : List Deed} (apart : Apart names mine ((rest c).course o w).deeds) :
    Apart names mine
      ((Stage.errorForward .onNextDelivery errorQueue rest c).course o w).deeds := by
  cases pending : w.table.pendingForward c.message.id with
  | none => exact (watched_errorForward pending rest).apart apart
  | some failure =>
    obtain ⟨p, w', ds, forwards⟩ := exists_forwards o errorQueue failure c w
    rw [course_errorForward_pending pending, forwards.course]
    exact .spared (forwards.no_attempt.1 ▸ List.nil_prefix) forwards.no_attempt.2 forwards.once

theorem apart_recoverability {s : Settings} (abortable : s.mode.canAbort = true)
    (given : Option DelayPolicy) (own : List Stage) (c : Context) (w : World σ) :
    Apart ((ReceivePipeline.recoverability s given).map (·.name))
      ((runStages own c).course o w).deeds
      ((runStages (ReceivePipeline.recoverability s given ++ own) c).course o w).deeds := by
  have mine : Apart [] ((runStages own c).course o w).deeds ((runStages own c).course o w).deeds := by
    have reached : Apart [] ((runStages own c).course o w).deeds
        ([] ++ ((runStages own c).course o w).deeds ++ []) := .reached rfl rfl rfl rfl
    simpa using reached
  have retries : Apart [ReceivePipeline.immediateRetriesName] _ ((runStages
      (⟨ReceivePipeline.immediateRetriesName, Stage.immediateRetries s.immediateRetries.toNat⟩ ::
        own) c).course o w).deeds :=
    ((watched_immediateRetries _ _).apart mine).entered _ _
  have mode : DecisionMode.ofAbortable s.mode.canAbort = .onNextDelivery := by
    rw [abortable]
    rfl
  simp only [ReceivePipeline.recoverability, mode]
  cases ReceivePipeline.policyOf s given with
  | none => exact (apart_errorForward s.errorQueue retries).entered _ _
  | some policy =>
    have delays : Apart [ReceivePipeline.delayedRetriesName, ReceivePipeline.immediateRetriesName]
        _ ((runStages (⟨ReceivePipeline.delayedRetriesName, Stage.delayedRetries .onNextDelivery
          policy⟩ :: ⟨ReceivePipeline.immediateRetriesName,
            Stage.immediateRetries s.immediateRetries.toNat⟩ :: own) c).course o w).deeds :=
      (apart_delayedRetries policy retries).entered _ _
    exact (apart_errorForward s.errorQueue delays).entered _ _

theorem guarded_recoverability {s : Settings} (given : Option DelayPolicy) {own : List Stage}
    (alone : ∀ stage ∈ own, stage.LeavesAlone) (fresh : c.aborted = false)
    (kept : ∀ p, ((runStages own c).course o w).ended = .done p → p.context.aborted = false) :
    ((runStages (ReceivePipeline.recoverability s given ++ own) c).course o w).Guarded := by
  have mine : ((runStages own c).course o w).Guarded := by
    intro p ended
    have unsent := (dispatches_of_only o (only_runStages alone c) w).1
    exact ⟨fun _ => unsent, fun _ => kept p ended⟩
  have retries : ((runStages (⟨ReceivePipeline.immediateRetriesName,
      Stage.immediateRetries s.immediateRetries.toNat⟩ :: own) c).course o w).Guarded :=
    ((watched_immediateRetries _ _).guarded mine).entered _ _
  simp only [ReceivePipeline.recoverability]
  cases ReceivePipeline.policyOf s given with
  | none => exact (guarded_errorForward fresh retries _).entered _ _
  | some policy =>
    have delays : ((runStages (⟨ReceivePipeline.delayedRetriesName, Stage.delayedRetries
        (.ofAbortable s.mode.canAbort) policy⟩ :: ⟨ReceivePipeline.immediateRetriesName,
          Stage.immediateRetries s.immediateRetries.toNat⟩ :: own) c).course o w).Guarded :=
      (guarded_delayedRetries fresh retries _).entered _ _
    exact (guarded_errorForward fresh delays _).entered _ _

end stages

namespace ReceivePipeline

/-- One delivery, beside the course that its own stages take by themselves. Where receives can be
aborted it either runs the own stages and dispatches nothing, or it runs none of them. In every
mode it has sent nothing if it is aborted, unless its own stages ask for that. -/
structure KeptApart {σ : Type} (s : Settings) (given : Option DelayPolicy)
    (delivery : Course σ Delivery) (ownCourse : Course σ Passage) : Prop where
  apart : s.mode.canAbort = true → ∃ front mine later,
    delivery.deeds = front ++ mine ++ later ∧ (mine = [] ∨ mine = ownCourse.deeds) ∧
      (tally front).entered <+: (recoverability s given).map (·.name) ∧
      (tally front).outcomes = [] ∧ tally later = {} ∧ delivery.tally.dispatches ≤ 1 ∧
      (delivery.tally.dispatches = 0 ∨ mine = [])
  unsent : (∀ passage, ownCourse.ended = .done passage → passage.context.aborted = false) →
    delivery.ended = .done .aborted → delivery.tally.sent = []

theorem own_stages_apart_from_dispatches {σ : Type} {s : Settings} {given : Option DelayPolicy}
    {own : List Stage} {p : ReceivePipeline} (built : build s given own = .ok p)
    (alone : ∀ stage ∈ own, stage.LeavesAlone) (o : Outside σ) (m : Incoming) (w : World σ) :
    KeptApart s given ((p.invoke m).course o w) ((runStages own (p.entry m)).course o w) := by
  have chain : p.stages = recoverability s given ++ own := by rw [build_eq built]
  constructor
  · intro abortable
    have split := apart_recoverability (o := o) abortable given own (p.entry m) w
    rw [← chain, ← deeds_invoke] at split
    have idle := dispatches_of_only o (only_runStages alone (p.entry m)) w
    change (tally ((runStages own (p.entry m)).course o w).deeds).sent = [] ∧
      (tally ((runStages own (p.entry m)).course o w).deeds).refused = [] at idle
    unfold Course.tally
    generalize ((p.invoke m).course o w).deeds = ds at split
    generalize ((runStages own (p.entry m)).course o w).deeds = mine at split idle
    cases split with
    | @reached front later before uncalled undispatched after =>
      have silent : (tally (front ++ mine ++ later)).dispatches = 0 := by
        simp only [Tally.dispatches, tally_append, Tally.sent_add, Tally.refused_add,
          List.length_append, after, idle.1, idle.2, List.length_nil] at undispatched ⊢
        omega
      exact ⟨front, mine, later, rfl, .inr rfl, before ▸ List.prefix_rfl, uncalled, after,
        by omega, .inl silent⟩
    | spared before uncalled once =>
      exact ⟨ds, [], [], by simp, .inl rfl, before, uncalled, rfl, once, .inr rfl⟩
  · intro kept again
    have guarded : ((runStages (recoverability s given ++ own) (p.entry m)).course o w).Guarded :=
      guarded_recoverability given alone rfl kept
    rw [← chain] at guarded
    rw [Course.tally, deeds_invoke]
    cases way : (runStages p.stages (p.entry m)).course o w with
    | mk ended w' ds =>
      rw [way] at guarded
      cases ended with
      | panicked text =>
        rw [course_invoke_panicked way] at again
        cases again
      | done passage =>
        rw [course_invoke way] at again
        have aborted := (Passage.of_aborted (Ended.done.inj again)).2
        exact (guarded passage rfl).1 (.inr aborted)

theorem stumbling_twice_apart : ∃ p,
    build (.forAddress "orders") none [⟨"Twice", Probe.twice.behaviour⟩, .ofHandler 0 "Billing"] =
      .ok p ∧
    (∀ stage ∈ [⟨"Twice", Probe.twice.behaviour⟩, Stage.ofHandler 0 "Billing"],
      stage.LeavesAlone) ∧
    KeptApart (.forAddress "orders") none
      ((p.invoke default).course Cast.stumbling.outside ⟨.ofCapacity 1000, {}⟩)
      ((runStages [⟨"Twice", Probe.twice.behaviour⟩, .ofHandler 0 "Billing"]
        (p.entry default)).course Cast.stumbling.outside ⟨.ofCapacity 1000, {}⟩) := by
  have alone : ∀ stage ∈ [⟨"Twice", Probe.twice.behaviour⟩, Stage.ofHandler 0 "Billing"],
      stage.LeavesAlone := by
    intro stage member
    rcases List.mem_cons.1 member with rfl | member
    · exact Probe.leavesAlone .twice "Twice"
    · cases List.mem_singleton.1 member
      exact ofHandler_leavesAlone 0 "Billing"
  have built := build_ok (s := .forAddress "orders") rfl rfl none
    [⟨"Twice", Probe.twice.behaviour⟩, .ofHandler 0 "Billing"]
  exact ⟨_, built, alone, own_stages_apart_from_dispatches built alone _ _ _⟩

end ReceivePipeline
end Redelivery
