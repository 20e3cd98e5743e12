import Redelivery.Proofs.Delivery.Outcome

/-! What a delivery does when others work on the same table and transport meanwhile, so that
nothing is known about the answers it gets. It never sends twice, and how it ends says whether it
sent anything. -/
namespace Redelivery

namespace Flow
variable {α β : Type} {allowed : List Deed → Request → Prop}
  {ends ends' : List Deed → Ended α → Prop}

/-- After some deeds, whatever is answered: each request is allowed by the deeds before it, and
the end is one that fits all of them. -/
def conducts (allowed : List Deed → Request → Prop) (ends : List Deed → Ended α → Prop) :
    Flow α → List Deed → Prop
  | .done a, ds => ends ds (.done a)
  | .panicked text, ds => ends ds (.panicked text)
  | .ask r next, ds =>
    allowed ds r ∧ ∀ answer, conducts allowed ends (next answer) (ds ++ (r.deed? answer).toList)

theorem conducts.imp {x : Flow α} {ds : List Deed} (conduct : x.conducts allowed ends ds)
    (weaker : ∀ ds e, ends ds e → ends' ds e) : x.conducts allowed ends' ds := by
  induction x generalizing ds with
  | done a => exact weaker ds _ conduct
  | panicked text => exact weaker ds _ conduct
  | ask r next ih =>
    obtain ⟨permitted, rest⟩ := conduct
    exact ⟨permitted, fun answer => ih answer (rest answer)⟩

theorem conducts_bind {x : Flow α} {f : α → Flow β} {ends' : List Deed → Ended β → Prop}
    {ds : List Deed} (first : x.conducts allowed ends ds)
    (later : ∀ ds a, ends ds (.done a) → (f a).conducts allowed ends' ds)
    (cut : ∀ ds text, ends ds (.panicked text) → ends' ds (.panicked text)) :
    (x >>= f).conducts allowed ends' ds := by
  change (x.bind f).conducts allowed ends' ds
  induction x generalizing ds with
  | done a => exact later ds a first
  | panicked text => exact cut ds text first
  | ask r next ih =>
    obtain ⟨permitted, rest⟩ := first
    exact ⟨permitted, fun answer => ih answer (rest answer)⟩

theorem conducts_quiet {r : Request} {next : r.Answer → Flow α} {ds : List Deed}
    (permitted : allowed ds r) (quiet : ∀ answer, r.deed? answer = none)
    (rest : ∀ answer, (next answer).conducts allowed ends ds) :
    (Flow.ask r next).conducts allowed ends ds := by
  refine ⟨permitted, fun answer => ?_⟩
  rw [quiet, Option.toList_none, List.append_nil]
  exact rest answer

theorem conducts_logAll {f : Unit → Flow α} {ds : List Deed}
    (permitted : ∀ entry, allowed ds (.log entry)) (entries : List LogEntry)
    (rest : (f ()).conducts allowed ends ds) :
    (logAll entries >>= f).conducts allowed ends ds := by
  induction entries with
  | nil => exact rest
  | cons entry entries ih => exact conducts_quiet (permitted entry) (fun _ => rfl) fun _ => ih

end Flow

/-- A dispatch is allowed as long as nothing was sent for the message, and only of the message. -/
def Request.Orderly (s : Settings) (id : String) (ds : List Deed) : Request → Prop
  | .dispatch op =>
    (tally ds).sent = [] ∧ op.message.id = id ∧ (op.IsDelayedCopy s ∨ op.IsForward s)
  | _ => True

inductive WayEnds (names : List String) (c : Context) (n : Tally) : Ended Passage → Prop where
  | panicked (text : String) (idle : n.sent = []) : WayEnds names c n (.panicked text)
  | handled {p : Passage} (fine : p.failure = none) (kept : p.context.aborted = false)
      (complete : n.Complete names) (idle : n.sent = []) : WayEnds names c n (.done p)
  | sent {p : Passage} {op : Operation} (fine : p.failure = none)
      (kept : p.context.aborted = false) (gone : n.sent = [op]) : WayEnds names c n (.done p)
  | aborted {p : Passage} (fine : p.failure = none) (aborted : p.context.aborted = true)
      (idle : n.sent = []) : WayEnds names c n (.done p)
  | failed {p : Passage} {failure : Failure} (failed : p.failure = some failure)
      (same : p.context.message.id = c.message.id) (here : p.context.address = c.address)
      (kept : p.context.aborted = false) (idle : n.sent = []) : WayEnds names c n (.done p)

def EndsAfter (names : List String) (c : Context) (before : List Deed) (ds : List Deed)
    (e : Ended Passage) : Prop :=
  ∃ more, ds = before ++ more ∧ WayEnds names c (tally more) e

def OrderlyWay (s : Settings) (names : List String) (way : Way) : Prop :=
  ∀ c before, c.address = s.address → c.aborted = false → (tally before).sent = [] →
    (way c).conducts (Request.Orderly s c.message.id)
      (EndsAfter names c before) before

section ways
variable {s : Settings} {names : List String} {c : Context} {before : List Deed} {rest : Way}

theorem orderly_end : OrderlyWay s [] (runStages []) := by
  intro c before here kept idle
  exact ⟨[], by simp, .handled rfl kept ⟨rfl, by simp⟩ rfl⟩

theorem WayEnds.entered {n : Tally} {e : Ended Passage} (ends : WayEnds names c n e)
    (stage id : String) : WayEnds (stage :: names) c ((Deed.entered stage id).tally.add n) e := by
  cases ends with
  | panicked text idle => exact .panicked text idle
  | handled fine kept complete idle =>
    exact .handled fine kept ⟨congrArg (stage :: ·) complete.1, complete.2⟩ idle
  | sent fine kept gone => exact .sent fine kept gone
  | aborted fine aborted idle => exact .aborted fine aborted idle
  | failed failed same here kept idle => exact .failed failed same here kept idle

theorem orderly_stage (stage : Stage) {stages : List Stage}
    (orderly : OrderlyWay s names (stage.behaviour (runStages stages))) :
    OrderlyWay s (stage.name :: names) (runStages (stage :: stages)) := by
  intro c before here kept idle
  refine ⟨trivial, fun _ => ?_⟩
  have entered : (tally (before ++ [.entered stage.name c.message.id])).sent = [] := by
    simp [idle, Deed.tally]
  refine (orderly c _ here kept entered).imp ?_
  rintro ds e ⟨more, rfl, ends⟩
  exact ⟨.entered stage.name c.message.id :: more, by simp, ends.entered _ _⟩

theorem WayEnds.called {n : Tally} {e : Ended Passage} {slot : Nat} {name : String}
    {m : Incoming} {handling : Handling} {c' : Context} (ends : WayEnds names c' n e)
    (done : handling.outcome = .done) (same : c'.message.id = c.message.id)
    (here : c'.address = c.address) :
    WayEnds names c ((Deed.called slot name m handling).tally.add n) e := by
  cases ends with
  | panicked text idle => exact .panicked text idle
  | handled fine kept complete idle =>
    refine .handled fine kept ⟨complete.1, fun outcome member => ?_⟩ idle
    rcases List.mem_cons.1 member with rfl | member
    · exact done
    · exact complete.2 outcome member
  | sent fine kept gone => exact .sent fine kept gone
  | aborted fine aborted idle => exact .aborted fine aborted idle
  | failed failed same' here' kept idle =>
    exact .failed failed (same'.trans same) (here'.trans here) kept idle

theorem orderly_handling (orderly : OrderlyWay s names rest) (slot : Nat) (name : String) :
    OrderlyWay s names (Stage.handling slot name rest) := by
  intro c before here kept idle
  refine ⟨trivial, fun handling => ?_⟩
  refine Flow.conducts_quiet trivial (fun _ => rfl) fun _ => ?_
  refine Flow.conducts_logAll (fun _ => trivial) _ ?_
  have called : (tally (before ++ [.called slot name c.message handling])).sent = [] := by
    simp [idle, Deed.tally]
  cases outcome : handling.outcome with
  | done =>
    refine (orderly { c with message := c.message.handledBy handling } _ here kept called).imp ?_
    rintro ds e ⟨more, rfl, ends⟩
    exact ⟨.called slot name c.message handling :: more, by simp, ends.called outcome rfl rfl⟩
  | failed failure => exact ⟨_, rfl, .failed rfl rfl rfl kept rfl⟩
  | panicked text => exact ⟨_, rfl, .panicked text rfl⟩

theorem orderly_handlers (s : Settings) (handlers : List (Nat × String)) :
    OrderlyWay s (handlers.map (·.2)) (runStages (handlerStages handlers)) := by
  induction handlers with
  | nil => exact orderly_end
  | cons handler handlers ih =>
    obtain ⟨slot, name⟩ := handler
    exact orderly_stage (.ofHandler slot name) (orderly_handling ih slot name)

theorem WayEnds.of_same {n : Tally} {e : Ended Passage} {c' : Context} (ends : WayEnds names c' n e)
    (same : c'.message.id = c.message.id) (here : c'.address = c.address) :
    WayEnds names c n e := by
  cases ends with
  | panicked text idle => exact .panicked text idle
  | handled fine kept complete idle => exact .handled fine kept complete idle
  | sent fine kept gone => exact .sent fine kept gone
  | aborted fine aborted idle => exact .aborted fine aborted idle
  | failed failed same' here' kept idle =>
    exact .failed failed (same'.trans same) (here'.trans here) kept idle

theorem endsAfter_add {more extra : List Deed} {e : Ended Passage}
    (ends : WayEnds names c (tally (more ++ extra)) e) :
    EndsAfter names c before (before ++ more ++ extra) e :=
  ⟨more ++ extra, List.append_assoc _ _ _, ends⟩

theorem endsAfter_add_add {more first second : List Deed} {e : Ended Passage}
    (ends : WayEnds names c (tally (more ++ (first ++ second))) e) :
    EndsAfter names c before (before ++ more ++ first ++ second) e := by
  rw [List.append_assoc (before ++ more)]
  exact endsAfter_add ends

theorem conducts_rest {f : Passage → Flow Passage} (orderly : OrderlyWay s names rest)
    (here : c.address = s.address) (kept : c.aborted = false) (idle : (tally before).sent = [])
    (fine : ∀ p more, p.failure = none → WayEnds names c (tally more) (.done p) →
      (f p).conducts (Request.Orderly s c.message.id) (EndsAfter names c before) (before ++ more))
    (failed : ∀ p failure more, p.failure = some failure →
      p.context.message.id = c.message.id → p.context.address = c.address →
      p.context.aborted = false → (tally more).sent = [] →
      (f p).conducts (Request.Orderly s c.message.id) (EndsAfter names c before)
        (before ++ more)) :
    (rest c >>= f).conducts (Request.Orderly s c.message.id) (EndsAfter names c before) before := by
  refine Flow.conducts_bind (orderly c before here kept idle) ?_ ?_
  · rintro ds p ⟨more, rfl, ends⟩
    cases none : p.failure with
    | none => exact fine p more none ends
    | some failure =>
      cases ends with
      | handled fine => cases none.symm.trans fine
      | sent fine => cases none.symm.trans fine
      | aborted fine => cases none.symm.trans fine
      | failed _ same stayed kept quiet => exact failed p failure more none same stayed kept quiet
  · rintro ds text ⟨more, rfl, ends⟩
    cases ends with
    | panicked text idle => exact ⟨more, rfl, .panicked text idle⟩

theorem conducts_unless_fine {settle : Passage → Failure → Flow Passage}
    (orderly : OrderlyWay s names rest) (here : c.address = s.address) (kept : c.aborted = false)
    (idle : (tally before).sent = [])
    (failed : ∀ p failure more, p.failure = some failure →
      p.context.message.id = c.message.id → p.context.address = c.address →
      p.context.aborted = false → (tally more).sent = [] →
      (settle p failure).conducts (Request.Orderly s c.message.id) (EndsAfter names c before)
        (before ++ more)) :
    (rest c >>= fun p => match p.failure with
      | none => pure p
      | some failure => settle p failure).conducts (Request.Orderly s c.message.id)
        (EndsAfter names c before) before := by
  refine conducts_rest orderly here kept idle ?fine ?failed
  case fine =>
    intro p more none ends
    simp only [none]
    exact ⟨more, rfl, ends⟩
  case failed =>
    intro p failure more some same stayed kept quiet
    simp only [some]
    exact failed p failure more some same stayed kept quiet

theorem orderly_immediateRetries (orderly : OrderlyWay s names rest) (bound : Nat) :
    OrderlyWay s names (Stage.immediateRetries bound rest) := by
  intro c before here kept idle
  refine Flow.conducts_quiet trivial (fun _ => rfl) fun known => ?_
  refine conducts_rest orderly here kept idle ?fine ?failed
  case fine =>
    intro p more none ends
    simp only [none]
    exact Flow.conducts_quiet trivial (fun _ => rfl) fun _ => ⟨more, rfl, ends⟩
  case failed =>
    intro p failure more some same stayed kept quiet
    simp only [some]
    split
    · split
      · refine Flow.conducts_quiet trivial (fun _ => rfl) fun _ => ?_
        refine Flow.conducts_quiet trivial (fun _ => rfl) fun _ => ?_
        exact ⟨more, rfl, .failed rfl same stayed kept quiet⟩
      · refine Flow.conducts_quiet trivial (fun _ => rfl) fun _ => ?_
        refine Flow.conducts_quiet trivial (fun _ => rfl) fun _ => ?_
        refine ⟨trivial, fun _ => ?_⟩
        exact endsAfter_add (.aborted rfl rfl (by simp [quiet, Request.deed?, Deed.tally]))
    · exact ⟨more, rfl, .failed some same stayed kept quiet⟩

section decisions
variable {more : List Deed} {failure : Failure}

theorem conducts_deferMessage (here : c.address = s.address) (kept : c.aborted = false)
    (idle : (tally before).sent = []) (quiet : (tally more).sent = []) (retry : Nat)
    (delay : Duration) :
    (Stage.deferMessage failure retry delay c).conducts (Request.Orderly s c.message.id)
      (EndsAfter names c before)
      (before ++ more) := by
  have unsent : (tally (before ++ more)).sent = [] := by simp [idle, quiet]
  refine Flow.conducts_quiet trivial (fun _ => rfl) fun time => ?_
  refine ⟨⟨unsent, rfl, .inl ⟨here, delay, rfl⟩⟩, fun answer => ?_⟩
  cases answer with
  | some dispatchFailure =>
    refine ⟨trivial, fun _ => ?_⟩
    exact endsAfter_add_add (.failed rfl rfl rfl kept (by simp [quiet, Request.deed?, Deed.tally]))
  | none =>
    refine Flow.conducts_quiet trivial (fun _ => rfl) fun _ => ?_
    refine Flow.conducts_quiet trivial (fun _ => rfl) fun _ => ?_
    refine ⟨trivial, fun _ => ?_⟩
    exact endsAfter_add_add (.sent rfl kept (by simp [quiet]; rfl))

theorem conducts_delayedRetriesUsedUp (kept : c.aborted = false) (quiet : (tally more).sent = []) :
    (Stage.delayedRetriesUsedUp failure c).conducts (Request.Orderly s c.message.id)
      (EndsAfter names c before)
      (before ++ more) := by
  unfold Stage.delayedRetriesUsedUp
  split
  · refine Flow.conducts_quiet trivial (fun _ => rfl) fun _ => ?_
    exact ⟨more, rfl, .failed rfl rfl rfl kept quiet⟩
  · exact ⟨more, rfl, .failed rfl rfl rfl kept quiet⟩

theorem conducts_forgetting {α : Type} {id : String} {ends : List Deed → Ended α → Prop}
    {f : Unit → Flow α} {ds : List Deed} (mode : DecisionMode)
    (rest : (f ()).conducts (Request.Orderly s id) ends ds) :
    (mode.forgetting c.message.id >>= f).conducts (Request.Orderly s id) ends ds := by
  cases mode with
  | onNextDelivery => exact Flow.conducts_quiet trivial (fun _ => rfl) fun _ => rest
  | atOnce => exact rest

theorem conducts_grantedDelay {allowed : List Deed → Request → Prop}
    (logs : ∀ ds entry, allowed ds (.log entry))
    (asks : ∀ ds policy q, allowed ds (.consult policy q)) (policy : DelayPolicy)
    (failure : Failure) (m : Incoming) :
    (Stage.grantedDelay policy failure m).conducts allowed
      (fun ds e => (∃ a, e = .done a) ∧ ∃ extra, ds = before ++ extra ∧ (tally extra).sent = [])
      before := by
  unfold Stage.grantedDelay
  split
  · refine Flow.conducts_logAll (logs before) _ ⟨asks _ _ _, fun answer => ?_⟩
    exact ⟨⟨_, rfl⟩, _, rfl, rfl⟩
  · exact ⟨⟨_, rfl⟩, [], by simp, rfl⟩

theorem conducts_decide (here : c.address = s.address) (kept : c.aborted = false)
    (idle : (tally before).sent = []) (quiet : (tally more).sent = []) (mode : DecisionMode)
    (policy : DelayPolicy) (failure : Failure) :
    (mode.decide policy failure c).conducts (Request.Orderly s c.message.id)
      (EndsAfter names c before) (before ++ more) := by
  rw [DecisionMode.decide_eq]
  refine Flow.conducts_bind (conducts_grantedDelay (fun _ _ => trivial) (fun _ _ _ => trivial)
    policy failure c.message) ?_ ?_
  · rintro ds granted ⟨-, extra, rfl, still⟩
    rw [List.append_assoc]
    have quiet : (tally (more ++ extra)).sent = [] := by simp [quiet, still]
    cases granted with
    | none => exact conducts_forgetting mode (conducts_delayedRetriesUsedUp kept quiet)
    | some grant => exact conducts_deferMessage here kept idle quiet grant.1 grant.2
  · rintro ds text ⟨⟨a, ended⟩, -⟩
    cases ended

theorem conducts_forwardToErrorQueue (kept : c.aborted = false)
    (idle : (tally before).sent = []) (quiet : (tally more).sent = []) (failure : Failure) :
    (Stage.forwardToErrorQueue s.errorQueue failure c).conducts (Request.Orderly s c.message.id)
      (EndsAfter names c before) (before ++ more) := by
  have unsent : (tally (before ++ more)).sent = [] := by simp [idle, quiet]
  refine Flow.conducts_quiet trivial (fun _ => rfl) fun time => ?_
  refine ⟨⟨unsent, rfl, .inr ⟨rfl, rfl⟩⟩, fun answer => ?_⟩
  cases answer with
  | some dispatchFailure =>
    refine ⟨trivial, fun _ => ?_⟩
    exact endsAfter_add_add (.failed rfl rfl rfl kept (by simp [quiet, Request.deed?, Deed.tally]))
  | none =>
    refine Flow.conducts_quiet trivial (fun _ => rfl) fun _ => ?_
    refine Flow.conducts_quiet trivial (fun _ => rfl) fun _ => ?_
    refine ⟨trivial, fun _ => ?_⟩
    exact endsAfter_add_add (.sent rfl kept (by simp [quiet]; rfl))

end decisions

theorem EndsAfter.of_same {ds : List Deed} {e : Ended Passage} {c' : Context}
    (ends : EndsAfter names c' before ds e) (same : c'.message.id = c.message.id)
    (here : c'.address = c.address) : EndsAfter names c before ds e := by
  obtain ⟨more, split, ends⟩ := ends
  exact ⟨more, split, ends.of_same same here⟩

theorem orderly_atOnce {settle : Failure → Context → Flow Passage}
    (orderly : OrderlyWay s names rest)
    (settles : ∀ failure c before more, c.address = s.address → c.aborted = false →
      (tally before).sent = [] → (tally more).sent = [] →
      (settle failure c).conducts (Request.Orderly s c.message.id) (EndsAfter names c before)
        (before ++ more)) :
    OrderlyWay s names fun c => rest c >>= fun p => match p.failure with
      | none => pure p
      | some failure => settle failure p.context := by
  intro c before here kept idle
  refine conducts_unless_fine orderly here kept idle ?_
  intro p failure more _ same stayed kept quiet
  have settled := settles failure p.context before more (stayed.trans here) kept idle quiet
  rw [same] at settled
  exact settled.imp fun ds e ends => ends.of_same same stayed

theorem orderly_delayedRetries (orderly : OrderlyWay s names rest) (mode : DecisionMode)
    (policy : DelayPolicy) : OrderlyWay s names (Stage.delayedRetries mode policy rest) := by
  cases mode with
  | atOnce =>
    exact orderly_atOnce orderly fun failure c before more here kept idle quiet =>
      conducts_decide here kept idle quiet .atOnce policy failure
  | onNextDelivery =>
    intro c before here kept idle
    refine Flow.conducts_quiet trivial (fun _ => rfl) fun known => ?_
    have resumed : ∀ failure, (Stage.resumeDelay policy failure c).conducts
        (Request.Orderly s c.message.id) (EndsAfter names c before) before := by
      intro failure
      have nothing : (tally []).sent = [] := rfl
      have decided : (Stage.resumeDelay policy failure c).conducts (Request.Orderly s c.message.id)
          (EndsAfter names c before) (before ++ []) :=
        conducts_decide here kept idle nothing .onNextDelivery policy failure
      rw [List.append_nil] at decided
      exact decided
    have fresh : (rest c >>= fun p => match p.failure with
        | none => pure p
        | some failure =>
          if failure.isRetryable then Stage.postponeDelay c.message.id failure p.context
          else Stage.delayedRetriesUsedUp failure p.context).conducts
        (Request.Orderly s c.message.id) (EndsAfter names c before) before := by
      refine conducts_unless_fine orderly here kept idle ?_
      intro p failure more _ same stayed kept quiet
      split
      · refine Flow.conducts_quiet trivial (fun _ => rfl) fun _ => ?_
        refine Flow.conducts_quiet trivial (fun _ => rfl) fun _ => ?_
        exact ⟨more, rfl, .aborted rfl rfl quiet⟩
      · rw [← same]
        exact (conducts_delayedRetriesUsedUp kept quiet).imp
          fun ds e (ends : EndsAfter names p.context before ds e) => ends.of_same same stayed
    cases known with
    | none => exact fresh
    | some r =>
      obtain ⟨attempts, failure, toErrorQueue, toDelay⟩ := r
      cases toDelay with
      | false => exact fresh
      | true => exact resumed failure

theorem orderly_errorForward (orderly : OrderlyWay s names rest) (mode : DecisionMode) :
    OrderlyWay s names (Stage.errorForward mode s.errorQueue rest) := by
  cases mode with
  | atOnce =>
    exact orderly_atOnce orderly fun failure c before more _ kept idle quiet =>
      conducts_forwardToErrorQueue kept idle quiet failure
  | onNextDelivery =>
    intro c before here kept idle
    refine Flow.conducts_quiet trivial (fun _ => rfl) fun known => ?_
    have resumed : ∀ failure, (Stage.forwardToErrorQueue s.errorQueue failure c).conducts
        (Request.Orderly s c.message.id) (EndsAfter names c before) before := by
      intro failure
      have nothing : (tally []).sent = [] := rfl
      have forwarded : (Stage.forwardToErrorQueue s.errorQueue failure c).conducts
          (Request.Orderly s c.message.id) (EndsAfter names c before) (before ++ []) :=
        conducts_forwardToErrorQueue kept idle nothing failure
      rw [List.append_nil] at forwarded
      exact forwarded
    have fresh : (rest c >>= fun p => match p.failure with
        | none => pure p
        | some failure => Stage.postponeForward c.message.id failure p.context).conducts
        (Request.Orderly s c.message.id) (EndsAfter names c before) before := by
      refine conducts_unless_fine orderly here kept idle ?_
      intro p failure more _ same stayed kept quiet
      refine Flow.conducts_quiet trivial (fun _ => rfl) fun _ => ?_
      refine Flow.conducts_quiet trivial (fun _ => rfl) fun _ => ?_
      exact ⟨more, rfl, .aborted rfl rfl quiet⟩
    cases known with
    | none => exact fresh
    | some r =>
      obtain ⟨attempts, failure, toErrorQueue, toDelay⟩ := r
      cases toErrorQueue with
      | false => exact fresh
      | true => exact resumed failure

end ways

/-- How processing ends: with the message handled in the last delivery, with one operation sent, or
with nothing sent and the message to be given back. -/
inductive ProcessEnds (names : List String) : List Deed → Ended Processed → Prop where
  | handled {earlier last : List Deed} {deliveries : Nat} (complete : (tally last).Complete names)
      (idle : (tally (earlier ++ last)).sent = []) :
      ProcessEnds names (earlier ++ last) (.done (.settled deliveries))
  | sent {ds : List Deed} {op : Operation} {deliveries : Nat} (gone : (tally ds).sent = [op]) :
      ProcessEnds names ds (.done (.settled deliveries))
  | failed {ds : List Deed} {failure : Failure} (idle : (tally ds).sent = []) :
      ProcessEnds names ds (.done (.failed failure))
  | panicked {ds : List Deed} {text : String} (idle : (tally ds).sent = []) :
      ProcessEnds names ds (.panicked text)

namespace ReceivePipeline
variable {s : Settings} {given : Option DelayPolicy} {handlers : List (Nat × String)}
  {p : ReceivePipeline}

theorem orderly_chain (built : build s given (handlerStages handlers) = .ok p) :
    OrderlyWay s p.stageNames (runStages p.stages) := by
  have retries := orderly_stage
    ⟨immediateRetriesName, Stage.immediateRetries s.immediateRetries.toNat⟩
    (orderly_immediateRetries (orderly_handlers s handlers) _)
  rw [stageNames, build_eq built]
  simp only [recoverability]
  cases policyOf s given with
  | none =>
    have forward := orderly_stage
      ⟨errorForwardName, Stage.errorForward (.ofAbortable s.mode.canAbort) s.errorQueue⟩
      (orderly_errorForward retries _)
    simpa [names_handlerStages] using forward
  | some policy =>
    have delays := orderly_stage
      ⟨delayedRetriesName, Stage.delayedRetries (.ofAbortable s.mode.canAbort) policy⟩
      (orderly_delayedRetries retries _ policy)
    have forward := orderly_stage
      ⟨errorForwardName, Stage.errorForward (.ofAbortable s.mode.canAbort) s.errorQueue⟩
      (orderly_errorForward delays _)
    simpa [names_handlerStages] using forward

inductive DeliveryEnds (names : List String) (n : Tally) : Ended Delivery → Prop where
  | panicked (text : String) (idle : n.sent = []) : DeliveryEnds names n (.panicked text)
  | handled (complete : n.Complete names) (idle : n.sent = []) :
      DeliveryEnds names n (.done .completed)
  | sent {op : Operation} (gone : n.sent = [op]) : DeliveryEnds names n (.done .completed)
  | aborted (idle : n.sent = []) : DeliveryEnds names n (.done .aborted)
  | failed {failure : Failure} (idle : n.sent = []) : DeliveryEnds names n (.done (.failed failure))

theorem conducts_invoke (built : build s given (handlerStages handlers) = .ok p) (m : Incoming)
    {before : List Deed} (idle : (tally before).sent = []) :
    (p.invoke m).conducts (Request.Orderly s m.id)
      (fun ds e => ∃ more, ds = before ++ more ∧ DeliveryEnds p.stageNames (tally more) e)
      before := by
  refine Flow.conducts_bind
    (orderly_chain built (p.entry m) before (address_of_build built) rfl idle) ?_ ?_
  · rintro ds passage ⟨more, rfl, ends⟩
    cases ends with
    | handled fine kept complete idle =>
      simp only [fine, kept]
      exact ⟨more, rfl, .handled complete idle⟩
    | sent fine kept gone =>
      simp only [fine, kept]
      exact ⟨more, rfl, .sent gone⟩
    | aborted fine aborted idle =>
      simp only [fine, aborted]
      exact ⟨more, rfl, .aborted idle⟩
    | failed failed same here kept idle =>
      simp only [failed]
      exact ⟨more, rfl, .failed idle⟩
  · rintro ds text ⟨more, rfl, ends⟩
    cases ends with
    | panicked text idle => exact ⟨more, rfl, .panicked text idle⟩

theorem conducts_processWithin (built : build s given (handlerStages handlers) = .ok p)
    (m : Incoming) (allowed earlier : Nat) {before : List Deed}
    (idle : (tally before).sent = []) :
    (p.processWithin m allowed earlier).conducts (Request.Orderly s m.id)
      (ProcessEnds p.stageNames) before := by
  -- On the deliveries allowed: only one that sent nothing is followed by another.
  induction allowed generalizing earlier before with
  | zero => exact .panicked idle
  | succ allowed ih =>
    refine Flow.conducts_bind (conducts_invoke built m idle) ?_ ?_
    · rintro ds delivery ⟨more, rfl, ends⟩
      cases ends with
      | handled complete still =>
        exact .handled complete (by simp [idle, still])
      | sent gone => exact .sent (by simp [idle, gone]; rfl)
      | aborted still =>
        refine Flow.conducts_quiet trivial (fun _ => rfl) fun _ => ?_
        exact ih (earlier + 1) (by simp [idle, still])
      | failed still => exact .failed (by simp [idle, still])
    · rintro ds text ⟨more, rfl, ends⟩
      cases ends with
      | panicked text still => exact .panicked (by simp [idle, still])

theorem conducts_process (built : build s given (handlerStages handlers) = .ok p) (m : Incoming) :
    (p.process m).conducts (Request.Orderly s m.id) (ProcessEnds p.stageNames) [] :=
  conducts_processWithin built m _ 0 rfl

end ReceivePipeline
end Redelivery
