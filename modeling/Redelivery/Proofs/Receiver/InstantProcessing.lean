import Redelivery.Proofs.Receiver.Schedules

/-! Processing that takes no time. Only handlers pause; where their pauses have no length, a worker
runs the processing of a message to its end in one turn. -/
namespace Redelivery

def Request.isSwift : Request → Prop
  | .pause length => length.isZero = true
  | _ => True

section flows
variable {σ α β : Type} {o : Outside σ}

/-- No request of a flow takes time, whatever state the surroundings are in. -/
def Flow.prompt (o : Outside σ) : Flow α → Prop
  | .done _ => True
  | .panicked _ => True
  | .ask r next => r.isSwift ∧ ∀ w, (next (o.answer w r).1).prompt o

theorem prompt_request {r : Request} (swift : r.isSwift) : (Flow.ask r .done).prompt o :=
  ⟨swift, fun _ => trivial⟩

theorem prompt_bind {x : Flow α} {f : α → Flow β} (first : x.prompt o)
    (rest : ∀ a, (f a).prompt o) : (x >>= f).prompt o := by
  change (x.bind f).prompt o
  induction x with
  | done a => exact rest a
  | panicked text => exact trivial
  | ask r next ih => exact ⟨first.1, fun w => ih _ (first.2 w)⟩

theorem prompt_logAll (entries : List LogEntry) : (Flow.logAll entries).prompt o := by
  induction entries with
  | nil => exact trivial
  | cons entry rest ih => exact ⟨trivial, fun _ => ih⟩

/-- A prompt flow runs to its end without waiting. -/
theorem advance_prompt {x : Flow α} (prompt : x.prompt o) (w : World σ) :
    (x.advance o w).1 = .ended (x.course o w).ended ∧
      (x.advance o w).2.1 = (x.course o w).world := by
  induction x generalizing w with
  | done a => exact ⟨rfl, rfl⟩
  | panicked text => exact ⟨rfl, rfl⟩
  | ask r next ih =>
    have goes : ∀ length, r = .pause length → length.isZero = true := by
      rintro length rfl
      exact prompt.1
    obtain ⟨stop, world⟩ := advance_ask o w next goes
    obtain ⟨ended, left⟩ := ih (o.answer w r).1 (prompt.2 w) (o.answer w r).2.1
    exact ⟨stop.trans ended, world.trans left⟩

end flows

def Stage.Prompt {σ : Type} (o : Outside σ) (stage : Stage) : Prop :=
  ∀ rest : Way, (∀ c, (rest c).prompt o) → ∀ c, (stage.behaviour rest c).prompt o

section stages
variable {σ : Type} {o : Outside σ} {rest : Way}

theorem prompt_runStages {stages : List Stage} (each : ∀ stage ∈ stages, stage.Prompt o)
    (c : Context) : (runStages stages c).prompt o := by
  induction stages generalizing c with
  | nil => exact trivial
  | cons stage stages ih =>
    have later := ih fun other member => each other (List.mem_cons_of_mem _ member)
    exact ⟨trivial, fun _ => each stage List.mem_cons_self _ later c⟩

theorem prompt_ofHandler {slot : Nat} (swift : ∀ m st, (o.handle slot m st).1.pause.isZero = true)
    (name : String) : (Stage.ofHandler slot name).Prompt o := by
  intro rest later c
  refine ⟨trivial, fun w => ?_⟩
  refine prompt_bind (x := Flow.pause _) (prompt_request (swift c.message w.outside)) fun _ => ?_
  refine prompt_bind (prompt_logAll _) fun _ => ?_
  generalize (o.answer w (.handle slot name c.message)).1 = handling
  cases handling.outcome with
  | done => exact later _
  | failed failure => exact trivial
  | panicked text => exact trivial

theorem prompt_unless_fine {f : Passage → Failure → Flow Passage} (later : ∀ c, (rest c).prompt o)
    (c : Context) (failed : ∀ p failure, (f p failure).prompt o) :
    (rest c >>= fun p => match p.failure with
      | none => pure p
      | some failure => f p failure).prompt o := by
  refine prompt_bind (later c) fun p => ?_
  cases p.failure with
  | none => exact trivial
  | some failure => exact failed p failure

theorem prompt_immediateRetries (later : ∀ c, (rest c).prompt o) (bound : Nat) (c : Context) :
    (Stage.immediateRetries bound rest c).prompt o := by
  refine prompt_bind (prompt_request trivial) fun known => prompt_bind (later c) fun p => ?_
  cases p.failure with
  | none => exact prompt_bind (prompt_request trivial) fun _ => trivial
  | some failure =>
    dsimp only
    split
    · split
      · exact ⟨trivial, fun _ => ⟨trivial, fun _ => trivial⟩⟩
      · exact ⟨trivial, fun _ => ⟨trivial, fun _ => ⟨trivial, fun _ => trivial⟩⟩⟩
    · exact trivial

theorem prompt_deferMessage (failure : Failure) (retry : Nat) (delay : Duration) (c : Context) :
    (Stage.deferMessage failure retry delay c).prompt o := by
  refine ⟨trivial, fun time => ⟨trivial, fun w => ?_⟩⟩
  generalize (o.answer w (.dispatch _)).1 = answer
  cases answer with
  | some dispatchFailure => exact ⟨trivial, fun _ => trivial⟩
  | none => exact ⟨trivial, fun _ => ⟨trivial, fun _ => ⟨trivial, fun _ => trivial⟩⟩⟩

theorem prompt_delayedRetriesUsedUp (failure : Failure) (c : Context) :
    (Stage.delayedRetriesUsedUp failure c).prompt o := by
  unfold Stage.delayedRetriesUsedUp
  split
  · exact ⟨trivial, fun _ => trivial⟩
  · exact trivial

theorem prompt_decide (mode : DecisionMode) (policy : DelayPolicy) (failure : Failure)
    (c : Context) : (mode.decide policy failure c).prompt o := by
  rw [DecisionMode.decide_eq]
  have granted : (Stage.grantedDelay policy failure c.message).prompt o := by
    unfold Stage.grantedDelay
    split
    · exact prompt_bind (prompt_logAll _) fun _ => ⟨trivial, fun _ => trivial⟩
    · exact trivial
  refine prompt_bind granted fun grant => ?_
  cases grant with
  | some grant => exact prompt_deferMessage failure grant.1 grant.2 c
  | none =>
    cases mode with
    | onNextDelivery => exact ⟨trivial, fun _ => prompt_delayedRetriesUsedUp failure c⟩
    | atOnce => exact prompt_delayedRetriesUsedUp failure c

theorem prompt_delayedRetries (later : ∀ c, (rest c).prompt o) (mode : DecisionMode)
    (policy : DelayPolicy) (c : Context) : (Stage.delayedRetries mode policy rest c).prompt o := by
  cases mode with
  | atOnce =>
    exact prompt_unless_fine later c fun p failure => prompt_decide .atOnce policy failure p.context
  | onNextDelivery =>
    have fresh := prompt_unless_fine later c (f := fun p failure =>
      if failure.isRetryable then Stage.postponeDelay c.message.id failure p.context
      else Stage.delayedRetriesUsedUp failure p.context) fun p failure => by
        split
        · exact ⟨trivial, fun _ => ⟨trivial, fun _ => trivial⟩⟩
        · exact prompt_delayedRetriesUsedUp failure p.context
    refine prompt_bind (prompt_request trivial) fun known => ?_
    cases known with
    | none => exact fresh
    | some r =>
      obtain ⟨attempts, failure, toErrorQueue, toDelay⟩ := r
      cases toDelay with
      | true => exact prompt_decide .onNextDelivery policy failure c
      | false => exact fresh

theorem prompt_forwardToErrorQueue (errorQueue : String) (failure : Failure) (c : Context) :
    (Stage.forwardToErrorQueue errorQueue failure c).prompt o := by
  refine ⟨trivial, fun time => ⟨trivial, fun w => ?_⟩⟩
  generalize (o.answer w (.dispatch _)).1 = answer
  cases answer with
  | some dispatchFailure => exact ⟨trivial, fun _ => trivial⟩
  | none => exact ⟨trivial, fun _ => ⟨trivial, fun _ => ⟨trivial, fun _ => trivial⟩⟩⟩

theorem prompt_errorForward (later : ∀ c, (rest c).prompt o) (mode : DecisionMode)
    (errorQueue : String) (c : Context) : (Stage.errorForward mode errorQueue rest c).prompt o := by
  cases mode with
  | atOnce =>
    exact prompt_unless_fine later c fun p failure =>
      prompt_forwardToErrorQueue errorQueue failure p.context
  | onNextDelivery =>
    have fresh := prompt_unless_fine later c
      (f := fun p failure => Stage.postponeForward c.message.id failure p.context)
      fun p failure => ⟨trivial, fun _ => ⟨trivial, fun _ => trivial⟩⟩
    refine prompt_bind (prompt_request trivial) fun known => ?_
    cases known with
    | none => exact fresh
    | some r =>
      obtain ⟨attempts, failure, toErrorQueue, toDelay⟩ := r
      cases toErrorQueue with
      | true => exact prompt_forwardToErrorQueue errorQueue failure c
      | false => exact fresh

end stages

namespace ReceivePipeline
variable {σ : Type} {o : Outside σ} {s : Settings} {given : Option DelayPolicy}
  {p : ReceivePipeline}

theorem prompt_processWithin (prompt : ∀ m, (p.invoke m).prompt o) (m : Incoming)
    (allowed earlier : Nat) : (p.processWithin m allowed earlier).prompt o := by
  induction allowed generalizing earlier with
  | zero => exact trivial
  | succ allowed ih =>
    refine prompt_bind (prompt m) fun delivery => ?_
    cases delivery with
    | completed => exact trivial
    | failed failure => exact trivial
    | aborted => exact ⟨trivial, fun _ => ih (earlier + 1)⟩

theorem prompt_process {handlers : List (Nat × String)}
    (built : build s given (handlerStages handlers) = .ok p)
    (swift : ∀ handler ∈ handlers, ∀ m st, (o.handle handler.1 m st).1.pause.isZero = true)
    (m : Incoming) : (p.process m).prompt o := by
  have own : ∀ stage ∈ handlerStages handlers, stage.Prompt o := by
    intro stage member
    obtain ⟨handler, known, rfl⟩ := List.mem_map.1 member
    exact prompt_ofHandler (swift handler known) handler.2
  have all : ∀ stage ∈ p.stages, stage.Prompt o := by
    rw [build_eq built]
    intro stage member
    rcases List.mem_append.1 member with outer | inner
    · simp only [recoverability, List.cons_append, List.mem_cons, List.mem_append, List.mem_nil_iff,
        or_false, Option.mem_toList, Option.map_eq_some_iff] at outer
      rcases outer with rfl | ⟨policy, -, rfl⟩ | rfl
      · exact fun rest later => prompt_errorForward later _ s.errorQueue
      · exact fun rest later => prompt_delayedRetries later _ policy
      · exact fun rest later => prompt_immediateRetries later _
    · exact own stage inner
  refine prompt_processWithin (fun m => ?_) m Whole.max32 0
  refine prompt_bind (prompt_runStages all _) fun passage => ?_
  cases passage.failure with
  | some failure => exact trivial
  | none => exact trivial

end ReceivePipeline

theorem Receiver.workerTurn_prompt {τ : Type} {p : ReceiverPlan τ} {r : Receiver τ}
    (prompt : ∀ m, (p.pipeline.process m).prompt p.host.onExchange)
    (working : ∀ t ∈ r.tasks, ∀ rest time, t.phase = .processing rest time →
      rest = p.pipeline.process t.message) (number : Nat) :
    (r.workerTurn p number).receiver = r ∨
      ∃ t rest time, r.task? number = some t ∧ t.phase = .processing rest time ∧
        let run := (p.pipeline.process t.message).course p.host.onExchange
          ⟨r.table, r.exchange, r.host⟩
        (r.workerTurn p number).receiver = r.stopped number (.ended run.ended) run.world := by
  unfold workerTurn
  split
  · rename_i m rest time found
    split
    · have whole : rest = p.pipeline.process m := working _ (task?_mem found).1 rest time rfl
      obtain ⟨stop, world⟩ := advance_prompt (prompt m) ⟨r.table, r.exchange, r.host⟩
      refine .inr ⟨_, _, _, found, rfl, ?_⟩
      rw [work_stopped, whole, stop, world]
    · exact .inl rfl
  · exact .inl rfl

end Redelivery
