import Redelivery.Proofs.FailureTable.Changes

/-! The books kept by the stages of recoverability. The ways of a delivery are told apart by how
the endpoint's own stages ended, if they were reached, and by the changes each stage adds. -/
namespace Redelivery

inductive Attempted (bound : Nat) (id : String) (t : FailureTable) :
    Ended Passage → List TableChange → Ended Passage → Prop where
  | panicked (text : String) : Attempted bound id t (.panicked text) [] (.panicked text)
  | succeeded {p : Passage} (fine : p.failure = none) :
      Attempted bound id t (.done p) [.cleared id] (.done p)
  | absorbed {p p' : Passage} {failure : Failure} (failed : p.failure = some failure)
      (retryable : failure.isRetryable = true) (left : t.attempts id < bound)
      (fine : p'.failure = none) :
      Attempted bound id t (.done p) [.recorded id failure false false] (.done p')
  | usedUp {p p' : Passage} {failure : Failure} (failed : p.failure = some failure)
      (retryable : failure.isRetryable = true) (spent : bound ≤ t.attempts id)
      (passed : p'.failure = some failure)
      (same : p'.context.message.id = p.context.message.id) :
      Attempted bound id t (.done p) [.cleared id] (.done p')
  | unreadable {p : Passage} {failure : Failure} (failed : p.failure = some failure)
      (hopeless : failure.isRetryable = false) :
      Attempted bound id t (.done p) [] (.done p)

/-- What a stage may do to the table once it decided about a failure. -/
def Clears (id : String) (changes : List TableChange) : Prop :=
  ∀ change ∈ changes, change = .cleared id

inductive Deferred (mode : DecisionMode) (bound : Nat) (id : String) (t : FailureTable)
    (mine : Ended Passage) :
    Option DelayPolicy → Bool → List TableChange → Ended Passage → Prop where
  | absent {changes e} (attempted : Attempted bound id t mine changes e) :
      Deferred mode bound id t mine none true changes e
  | resumed {policy changes p} (later : mode = .onNextDelivery)
      (pending : (t.pendingDelay id).isSome) (clears : Clears id changes) :
      Deferred mode bound id t mine (some policy) false changes (.done p)
  | passed {policy changes e} (fresh : mode = .onNextDelivery → t.pendingDelay id = none)
      (attempted : Attempted bound id t mine changes e)
      (unfailed : ∀ p, e = .done p → p.failure = none) :
      Deferred mode bound id t mine (some policy) true changes e
  | postponed {policy changes p p' failure} (later : mode = .onNextDelivery)
      (fresh : t.pendingDelay id = none)
      (attempted : Attempted bound id t mine changes (.done p))
      (failed : p.failure = some failure) (retryable : failure.isRetryable = true)
      (fine : p'.failure = none) :
      Deferred mode bound id t mine (some policy) true
        (changes ++ [.recorded id failure false true]) (.done p')
  | unreadable {policy changes p p' failure} (later : mode = .onNextDelivery)
      (fresh : t.pendingDelay id = none)
      (attempted : Attempted bound id t mine changes (.done p))
      (failed : p.failure = some failure) (hopeless : failure.isRetryable = false)
      (passed : p'.failure = some failure) :
      Deferred mode bound id t mine (some policy) true changes (.done p')
  | decided {policy changes more p p' failure} (now : mode = .atOnce)
      (attempted : Attempted bound id t mine changes (.done p))
      (failed : p.failure = some failure) (clears : Clears p.context.message.id more)
      (same : p'.context.message.id = p.context.message.id) :
      Deferred mode bound id t mine (some policy) true (changes ++ more) (.done p')

inductive Delivered (mode : DecisionMode) (bound : Nat) (policy : Option DelayPolicy)
    (id : String) (t : FailureTable) (mine : Ended Passage) :
    Bool → List TableChange → Ended Passage → Prop where
  | resumed {changes p} (later : mode = .onNextDelivery)
      (pending : (t.pendingForward id).isSome) (clears : Clears id changes) :
      Delivered mode bound policy id t mine false changes (.done p)
  | passed {reached changes e} (fresh : mode = .onNextDelivery → t.pendingForward id = none)
      (deferred : Deferred mode bound id t mine policy reached changes e)
      (unfailed : ∀ p, e = .done p → p.failure = none) :
      Delivered mode bound policy id t mine reached changes e
  | postponed {reached changes p p' failure} (later : mode = .onNextDelivery)
      (fresh : t.pendingForward id = none)
      (deferred : Deferred mode bound id t mine policy reached changes (.done p))
      (failed : p.failure = some failure) (fine : p'.failure = none) :
      Delivered mode bound policy id t mine reached
        (changes ++ [.recorded id failure true false]) (.done p')
  | forwarded {reached changes more p p' failure} (now : mode = .atOnce)
      (deferred : Deferred mode bound id t mine policy reached changes (.done p))
      (failed : p.failure = some failure) (clears : Clears p.context.message.id more) :
      Delivered mode bound policy id t mine reached (changes ++ more) (.done p')

def Course.attempted {σ α : Type} (x : Course σ α) : Bool :=
  x.tally.entered.contains ReceivePipeline.immediateRetriesName

def Flow.told {σ α : Type} (o : Outside σ) (w : World σ)
    (P : Bool → List TableChange → Ended α → Prop) (x : Flow α) : Prop :=
  P (x.course o w).attempted (x.changes o w) (x.course o w).ended

section stages
variable {σ : Type} {o : Outside σ} {w : World σ} {c : Context} {rest : Way} {bound : Nat}
  {mode : DecisionMode} {mine : Ended Passage} {P : Bool → List TableChange → Ended Passage → Prop}

theorem told_stage {stage : Stage} (other : stage.name ≠ ReceivePipeline.immediateRetriesName)
    {stages : List Stage} (told : (stage.behaviour (runStages stages) c).told o w P) :
    (runStages (stage :: stages) c).told o w P := by
  have same : ((runStages (stage :: stages) c).course o w).attempted =
      ((stage.behaviour (runStages stages) c).course o w).attempted := by
    rw [course_runStages]
    simp [Course.attempted, Course.tally, Deed.tally, Ne.symm other]
  rw [Flow.told, same]
  exact told

theorem told_unless_fine {settle : Passage → Failure → Flow Passage}
    (quiet : ∀ p failure w', ((settle p failure).course o w').tally.entered = [])
    (unfailed : (∀ p, ((rest c).course o w).ended = .done p → p.failure = none) →
      (rest c).told o w P)
    (failed : ∀ p failure w', ((rest c).course o w).ended = .done p →
      p.failure = some failure →
      P ((rest c).course o w).attempted
        ((rest c).changes o w ++ (settle p failure).changes o w')
        ((settle p failure).course o w').ended) :
    (rest c >>= fun p => match p.failure with
      | none => pure p
      | some failure => settle p failure).told o w P := by
  rw [Flow.told] at unfailed ⊢
  rw [Flow.changes_bind, Flow.course_bind]
  cases ran : (rest c).course o w with
  | mk ended w' ds =>
    rw [ran] at unfailed failed
    cases ended with
    | panicked text =>
      simp only [List.append_nil]
      exact unfailed fun p done => by cases done
    | done p =>
      cases known : p.failure with
      | none =>
        have fine := unfailed fun p' done => Ended.done.inj done ▸ known
        simpa [known, Flow.changes_pure, Flow.course_pure] using fine
      | some failure =>
        have same : (((settle p failure).course o w').after ds).attempted =
            (⟨.done p, w', ds⟩ : Course σ Passage).attempted := by
          have silent := quiet p failure w'
          rw [Course.tally] at silent
          simp [Course.attempted, Course.tally, silent]
        simp only [known, same]
        exact failed p failure w' rfl known

theorem attempted_immediateRetries (alone : (rest c).only Request.leavesAlone) (bound : Nat) :
    (Stage.immediateRetries bound rest c).told o w fun _ changes e =>
      Attempted bound c.message.id w.table ((rest c).course o w).ended changes e := by
  have untouched := Flow.changes_of_leavesAlone o w alone
  simp only [Flow.told, Stage.immediateRetries, Flow.course_lookup, Flow.changes_lookup]
  rw [Flow.changes_bind, Flow.course_bind, untouched, List.nil_append]
  obtain ⟨ended, w', ds⟩ := (rest c).course o w
  cases ended with
  | panicked text => exact .panicked text
  | done p =>
    cases failed : p.failure with
    | none =>
      simp only [failed]
      exact .succeeded failed
    | some failure =>
      cases retryable : failure.isRetryable with
      | false =>
        simp only [failed, retryable]
        exact .unreadable failed retryable
      | true =>
        cases spent : givesUp bound ((w.table.lookup c.message.id).map (·.attempts)|>.getD 0) with
        | true =>
          simp only [failed, retryable]
          exact .usedUp failed retryable (of_decide_eq_true spent) rfl rfl
        | false =>
          simp only [failed, retryable]
          exact .absorbed failed retryable (Nat.lt_of_not_le (of_decide_eq_false spent)) rfl

def Tried (bound : Nat) (id : String) (t : FailureTable) (mine : Ended Passage) (reached : Bool)
    (changes : List TableChange) (e : Ended Passage) : Prop :=
  reached = true ∧ Attempted bound id t mine changes e

theorem tried_attempt {own : List Stage} (alone : ∀ stage ∈ own, stage.LeavesAlone)
    (bound : Nat) (c : Context) (w : World σ) :
    (runStages (⟨ReceivePipeline.immediateRetriesName, Stage.immediateRetries bound⟩ :: own)
      c).told o w (Tried bound c.message.id w.table ((runStages own c).course o w).ended) := by
  refine ⟨?_, attempted_immediateRetries (only_runStages alone c) bound⟩
  rw [course_runStages]
  simp [Course.attempted, Course.tally, Deed.tally]

section delayed
variable {policy : DelayPolicy}

theorem deferred_resumed {failure : Failure}
    (pending : w.table.pendingDelay c.message.id = some failure) :
    (Stage.resumeDelay policy failure c).told o w
      (Deferred .onNextDelivery bound c.message.id w.table mine (some policy)) := by
  obtain ⟨p, w', ds, defers⟩ := exists_defers o .onNextDelivery policy failure c w
  have course := defers.course
  simp only [DecisionMode.decide] at course
  have unreached : (⟨.done p, w', ds⟩ : Course σ Passage).attempted = false := by
    simp [Course.attempted, Course.tally, defers.no_attempt.1]
  rw [Flow.told, course, unreached]
  refine .resumed rfl (by simp [pending]) ?_
  exact changes_of_clearsAtMost (clears_decide .onNextDelivery policy failure c)

theorem changes_delayedRetriesUsedUp (failure : Failure) (c : Context) (w : World σ) :
    (Stage.delayedRetriesUsedUp failure c).changes o w = [] := by
  unfold Stage.delayedRetriesUsedUp
  split <;> rfl

theorem deferred_fresh (fresh : w.table.pendingDelay c.message.id = none)
    (told : (rest c).told o w (Tried bound c.message.id w.table mine)) :
    (rest c >>= fun p => match p.failure with
      | none => pure p
      | some failure =>
        if failure.isRetryable then Stage.postponeDelay c.message.id failure p.context
        else Stage.delayedRetriesUsedUp failure p.context).told o w
      (Deferred .onNextDelivery bound c.message.id w.table mine (some policy)) := by
  obtain ⟨reached, attempted⟩ := told
  refine told_unless_fine ?quiet ?unfailed ?failed
  case quiet =>
    intro p failure w'
    split
    · rfl
    · rw [course_delayedRetriesUsedUp]
      rfl
  case unfailed =>
    intro fine
    rw [Flow.told, reached]
    exact .passed (fun _ => fresh) attempted fine
  case failed =>
    intro p failure w' ended failed
    rw [ended] at attempted
    rw [reached]
    cases retryable : failure.isRetryable with
    | true => exact .postponed rfl fresh attempted failed retryable rfl
    | false =>
      simp only [Bool.false_eq_true, if_false, changes_delayedRetriesUsedUp, List.append_nil,
        course_delayedRetriesUsedUp]
      exact .unreadable rfl fresh attempted failed retryable rfl

theorem deferred_atOnce (told : (rest c).told o w (Tried bound c.message.id w.table mine)) :
    (Stage.delayedRetries .atOnce policy rest c).told o w
      (Deferred .atOnce bound c.message.id w.table mine (some policy)) := by
  obtain ⟨reached, attempted⟩ := told
  refine told_unless_fine ?quiet ?unfailed ?failed
  case quiet =>
    intro p failure w'
    obtain ⟨p', w'', ds, defers⟩ := exists_defers o .atOnce policy failure p.context w'
    have course := defers.course
    simp only [DecisionMode.decide] at course
    rw [course]
    exact defers.no_attempt.1
  case unfailed =>
    intro fine
    rw [Flow.told, reached]
    exact .passed (fun later => by cases later) attempted fine
  case failed =>
    intro p failure w' ended failed
    obtain ⟨p', w'', ds, defers⟩ := exists_defers o .atOnce policy failure p.context w'
    have course := defers.course
    simp only [DecisionMode.decide] at course
    rw [ended] at attempted
    rw [reached, course]
    refine .decided rfl attempted failed ?_ defers.keeps.1
    exact changes_of_clearsAtMost (clears_decide .atOnce policy failure p.context)

theorem deferred_delayedRetries
    (told : (rest c).told o w (Tried bound c.message.id w.table mine)) (mode : DecisionMode) :
    (Stage.delayedRetries mode policy rest c).told o w
      (Deferred mode bound c.message.id w.table mine (some policy)) := by
  cases mode with
  | atOnce => exact deferred_atOnce told
  | onNextDelivery =>
    simp only [Flow.told, Stage.delayedRetries, Flow.course_lookup, Flow.changes_lookup]
    cases known : w.table.lookup c.message.id with
    | none => exact deferred_fresh (by simp [FailureTable.pendingDelay, known]) told
    | some r =>
      obtain ⟨attempts, failure, toErrorQueue, toDelay⟩ := r
      cases toDelay with
      | true => exact deferred_resumed (by simp [FailureTable.pendingDelay, known])
      | false => exact deferred_fresh (by simp [FailureTable.pendingDelay, known]) told

end delayed

section forwarding
variable {policy : Option DelayPolicy} {errorQueue : String}

theorem delivered_resumed {failure : Failure}
    (pending : w.table.pendingForward c.message.id = some failure) :
    (Stage.forwardToErrorQueue errorQueue failure c).told o w
      (Delivered .onNextDelivery bound policy c.message.id w.table mine) := by
  obtain ⟨p, w', ds, forwards⟩ := exists_forwards o errorQueue failure c w
  have unreached : (⟨.done p, w', ds⟩ : Course σ Passage).attempted = false := by
    simp [Course.attempted, Course.tally, forwards.no_attempt.1]
  rw [Flow.told, forwards.course, unreached]
  refine .resumed rfl (by simp [pending]) ?_
  exact changes_of_clearsAtMost (clears_forwardToErrorQueue errorQueue failure c)

theorem delivered_fresh (fresh : w.table.pendingForward c.message.id = none)
    (told : (rest c).told o w
      (Deferred .onNextDelivery bound c.message.id w.table mine policy)) :
    (rest c >>= fun p => match p.failure with
      | none => pure p
      | some failure => Stage.postponeForward c.message.id failure p.context).told o w
      (Delivered .onNextDelivery bound policy c.message.id w.table mine) := by
  refine told_unless_fine (fun _ _ _ => rfl) ?unfailed ?failed
  case unfailed =>
    intro fine
    exact .passed (fun _ => fresh) told fine
  case failed =>
    intro p failure w' ended failed
    rw [Flow.told, ended] at told
    exact .postponed rfl fresh told failed rfl

theorem delivered_atOnce
    (told : (rest c).told o w (Deferred .atOnce bound c.message.id w.table mine policy)) :
    (Stage.errorForward .atOnce errorQueue rest c).told o w
      (Delivered .atOnce bound policy c.message.id w.table mine) := by
  refine told_unless_fine ?quiet ?unfailed ?failed
  case quiet =>
    intro p failure w'
    obtain ⟨p', w'', ds, forwards⟩ := exists_forwards o errorQueue failure p.context w'
    rw [forwards.course]
    exact forwards.no_attempt.1
  case unfailed =>
    intro fine
    exact .passed (fun later => by cases later) told fine
  case failed =>
    intro p failure w' ended failed
    obtain ⟨p', w'', ds, forwards⟩ := exists_forwards o errorQueue failure p.context w'
    rw [Flow.told, ended] at told
    rw [forwards.course]
    refine .forwarded rfl told failed ?_
    exact changes_of_clearsAtMost (clears_forwardToErrorQueue errorQueue failure p.context)

theorem delivered_errorForward
    (told : (rest c).told o w (Deferred mode bound c.message.id w.table mine policy)) :
    (Stage.errorForward mode errorQueue rest c).told o w
      (Delivered mode bound policy c.message.id w.table mine) := by
  cases mode with
  | atOnce => exact delivered_atOnce told
  | onNextDelivery =>
    simp only [Flow.told, Stage.errorForward, Flow.course_lookup, Flow.changes_lookup]
    cases known : w.table.lookup c.message.id with
    | none => exact delivered_fresh (by simp [FailureTable.pendingForward, known]) told
    | some r =>
      obtain ⟨attempts, failure, toErrorQueue, toDelay⟩ := r
      cases toErrorQueue with
      | true => exact delivered_resumed (by simp [FailureTable.pendingForward, known])
      | false => exact delivered_fresh (by simp [FailureTable.pendingForward, known]) told

end forwarding

theorem delivered_recoverability {s : Settings} (given : Option DelayPolicy) {own : List Stage}
    (alone : ∀ stage ∈ own, stage.LeavesAlone) (c : Context) (w : World σ) :
    (runStages (ReceivePipeline.recoverability s given ++ own) c).told o w
      (Delivered (ReceivePipeline.modeOf s) s.immediateRetries.toNat
        (ReceivePipeline.policyOf s given) c.message.id w.table
        ((runStages own c).course o w).ended) := by
  have tried := tried_attempt (o := o) alone s.immediateRetries.toNat c w
  simp only [ReceivePipeline.recoverability]
  cases ReceivePipeline.policyOf s given with
  | none =>
    have absent : (runStages (⟨ReceivePipeline.immediateRetriesName,
        Stage.immediateRetries s.immediateRetries.toNat⟩ :: own) c).told o w
        (Deferred (ReceivePipeline.modeOf s) s.immediateRetries.toNat c.message.id w.table
          ((runStages own c).course o w).ended none) := by
      rw [Flow.told, tried.1]
      exact .absent tried.2
    exact told_stage (show ReceivePipeline.errorForwardName ≠ _ by decide)
      (delivered_errorForward absent)
  | some policy =>
    have deferred : (runStages (⟨ReceivePipeline.delayedRetriesName,
        Stage.delayedRetries (ReceivePipeline.modeOf s) policy⟩ ::
          ⟨ReceivePipeline.immediateRetriesName,
            Stage.immediateRetries s.immediateRetries.toNat⟩ :: own) c).told o w
        (Deferred (ReceivePipeline.modeOf s) s.immediateRetries.toNat c.message.id w.table
          ((runStages own c).course o w).ended (some policy)) :=
      told_stage (show ReceivePipeline.delayedRetriesName ≠ _ by decide)
        (deferred_delayedRetries tried _)
    exact told_stage (show ReceivePipeline.errorForwardName ≠ _ by decide)
      (delivered_errorForward deferred)

end stages

namespace ReceivePipeline
variable {σ : Type} {s : Settings} {given : Option DelayPolicy} {own : List Stage}
  {p : ReceivePipeline}

theorem changes_invoke (o : Outside σ) (p : ReceivePipeline) (m : Incoming) (w : World σ) :
    (p.invoke m).changes o w = (runStages p.stages (p.entry m)).changes o w := by
  simp only [invoke, entry]
  rw [Flow.changes_bind]
  obtain ⟨ended, w', ds⟩ :=
    (runStages p.stages { message := m, address := p.address }).course o w
  cases ended with
  | panicked text => simp
  | done passage =>
    cases failed : passage.failure with
    | none => simp [failed, Flow.changes_pure]
    | some failure => simp [failed, Flow.changes_pure]

theorem delivered_invoke (built : build s given own = .ok p)
    (alone : ∀ stage ∈ own, stage.LeavesAlone) (o : Outside σ) (m : Incoming) (w : World σ) :
    ∃ e, Delivered (modeOf s) s.immediateRetries.toNat (policyOf s given) m.id w.table
      ((runStages own (p.entry m)).course o w).ended ((p.invoke m).course o w).attempted
      ((p.invoke m).changes o w) e := by
  have delivered := delivered_recoverability (o := o) (s := s) given alone (p.entry m) w
  have chain : p.stages = recoverability s given ++ own := by rw [build_eq built]
  have same : ((p.invoke m).course o w).attempted =
      ((runStages p.stages (p.entry m)).course o w).attempted := by
    simp only [Course.attempted, Course.tally, deeds_invoke]
  rw [← chain] at delivered
  rw [same, changes_invoke]
  exact ⟨_, delivered⟩

theorem handlerStages_leaveAlone (handlers : List (Nat × String)) :
    ∀ stage ∈ handlerStages handlers, stage.LeavesAlone := by
  intro stage member
  obtain ⟨handler, _, rfl⟩ := List.mem_map.1 member
  exact ofHandler_leavesAlone handler.1 handler.2

def deliverAll (o : Outside σ) (p : ReceivePipeline) : List Incoming → World σ → World σ
  | [], w => w
  | m :: ms, w => deliverAll o p ms ((p.invoke m).course o w).world

def changesOf (o : Outside σ) (p : ReceivePipeline) : List Incoming → World σ → List TableChange
  | [], _ => []
  | m :: ms, w => (p.invoke m).changes o w ++ changesOf o p ms ((p.invoke m).course o w).world

theorem table_deliverAll (o : Outside σ) (p : ReceivePipeline) (ms : List Incoming)
    (w : World σ) : (deliverAll o p ms w).table = w.table.changed (changesOf o p ms w) := by
  induction ms generalizing w with
  | nil => rfl
  | cons m ms ih =>
    rw [deliverAll, changesOf, FailureTable.changed_append, ← Flow.table_course]
    exact ih _

end ReceivePipeline
end Redelivery
