import Redelivery.Pipeline.Probe
import Redelivery.Proofs.Delivery.Invocation

/-! Two deliveries of the same message that are told different times. They put the same requests,
except for the times stamped on what they send, and of the table of failures they ask only for
the record of their own message. So far as nothing else is answered differently, they end alike. -/
namespace Redelivery

inductive Operation.Restamped : Operation → Operation → Prop where
  | same (op : Operation) : Operation.Restamped op op
  | delayed (m : Incoming) (retry : Nat) (address : String) (delay : Duration)
      (time time' : Instant) :
      Operation.Restamped
        { message := Stage.delayedCopy m retry time, destination := address, delays := [delay] }
        { message := Stage.delayedCopy m retry time', destination := address, delays := [delay] }
  | faulted (m : Incoming) (failure : Failure) (address errorQueue : String)
      (time time' : Instant) :
      Operation.Restamped (faultedOperation errorQueue address m failure time)
        (faultedOperation errorQueue address m failure time')

theorem Operation.Restamped.id_eq {op op' : Operation} (restamped : op.Restamped op') :
    op.message.id = op'.message.id := by
  cases restamped <;> rfl

theorem Operation.Restamped.destination_eq {op op' : Operation} (restamped : op.Restamped op') :
    op.destination = op'.destination := by
  cases restamped <;> rfl

inductive Notification.Restamped : Notification → Notification → Prop where
  | same (n : Notification) : Notification.Restamped n n
  | delayed (m : Incoming) (retry : Nat) (delay : Duration) (failure : Failure)
      (time time' : Instant) :
      Notification.Restamped
        (.retry retry delay false (Stage.delayedCopy m retry time).toIncoming failure)
        (.retry retry delay false (Stage.delayedCopy m retry time').toIncoming failure)
  | faulted (m : Incoming) (failure : Failure) (address : String) (time time' : Instant) :
      Notification.Restamped (.faulted (m.faulted failure address time) failure)
        (.faulted (m.faulted failure address time') failure)

inductive Deed.Restamped : Deed → Deed → Prop where
  | same (deed : Deed) : Deed.Restamped deed deed
  | dispatched {op op' : Operation} (restamped : op.Restamped op') (failed : Option Failure) :
      Deed.Restamped (.dispatched op failed) (.dispatched op' failed)
  | notified {n n' : Notification} (restamped : n.Restamped n') :
      Deed.Restamped (.notified n) (.notified n')

def Request.staysWith (id : String) : Request → Prop
  | .lookup other => other = id
  | .record other .. => other = id
  | .clear other => other = id
  | .now => False
  | _ => True

namespace Flow
variable {α β : Type}

/-- Flows that are the same but for times: they go on alike whatever times they are told. -/
inductive Echoes (id : String) (R : α → α → Prop) : Flow α → Flow α → Prop where
  | done {a b : α} (alike : R a b) : Echoes id R (.done a) (.done b)
  | panicked (text : String) : Echoes id R (.panicked text) (.panicked text)
  | ask {r : Request} {next next' : r.Answer → Flow α} (stays : r.staysWith id)
      (rest : ∀ answer, Echoes id R (next answer) (next' answer)) :
      Echoes id R (.ask r next) (.ask r next')
  | now {next next' : Request.now.Answer → Flow α}
      (rest : ∀ time time', Echoes id R (next time) (next' time')) :
      Echoes id R (.ask .now next) (.ask .now next')
  | dispatch {op op' : Operation} {next : (Request.dispatch op).Answer → Flow α}
      {next' : (Request.dispatch op').Answer → Flow α} (restamped : op.Restamped op')
      (rest : ∀ answer : Option Failure, Echoes id R (next answer) (next' answer)) :
      Echoes id R (.ask (.dispatch op) next) (.ask (.dispatch op') next')
  | notify {n n' : Notification} {next : (Request.notify n).Answer → Flow α}
      {next' : (Request.notify n').Answer → Flow α} (restamped : n.Restamped n')
      (rest : Echoes id R (next ()) (next' ())) :
      Echoes id R (.ask (.notify n) next) (.ask (.notify n') next')

theorem Echoes.bind {id : String} {R : α → α → Prop} {S : β → β → Prop} {x y : Flow α}
    {f g : α → Flow β} (first : x.Echoes id R y)
    (later : ∀ a b, R a b → (f a).Echoes id S (g b)) : (x >>= f).Echoes id S (y >>= g) := by
  change (x.bind f).Echoes id S (y.bind g)
  induction first with
  | done alike => exact later _ _ alike
  | panicked text => exact .panicked text
  | ask stays _ ih => exact .ask stays ih
  | now _ ih => exact .now ih
  | dispatch restamped _ ih => exact .dispatch restamped ih
  | notify restamped _ ih => exact .notify restamped ih

def within (allowed : Request → Prop) (ends : α → Prop) : Flow α → Prop
  | .done a => ends a
  | .panicked _ => True
  | .ask r next => allowed r ∧ ∀ answer, (next answer).within allowed ends

theorem within_bind {allowed : Request → Prop} {ends : α → Prop} {ends' : β → Prop}
    {x : Flow α} {f : α → Flow β} (first : x.within allowed ends)
    (later : ∀ a, ends a → (f a).within allowed ends') : (x >>= f).within allowed ends' := by
  change (x.bind f).within allowed ends'
  induction x with
  | done a => exact later a first
  | panicked text => exact trivial
  | ask r next ih => exact ⟨first.1, fun answer => ih answer (first.2 answer)⟩

theorem Echoes.of_within {id : String} {ends : α → Prop} {x : Flow α}
    (within : x.within (Request.staysWith id) ends) :
    x.Echoes id (fun a b => a = b ∧ ends a) x := by
  induction x with
  | done a => exact .done ⟨rfl, within⟩
  | panicked text => exact .panicked text
  | ask r next ih => exact .ask within.1 fun answer => ih answer (within.2 answer)

end Flow

def Passage.IsOf (id : String) (p : Passage) : Prop := p.context.message.id = id

def Way.StaysWith (id : String) (way : Way) : Prop :=
  ∀ c, c.message.id = id → (way c).within (Request.staysWith id) (Passage.IsOf id)

/-- A stage that stays with its message, if the rest of the chain does. After a message was given
another id, the outer stages would keep their books under that one. -/
def Stage.StaysWithMessage (stage : Stage) : Prop :=
  ∀ id rest, Way.StaysWith id rest → Way.StaysWith id (stage.behaviour rest)

section own
variable {id : String} {rest : Way}

theorem staysWith_runStages {own : List Stage} (stays : ∀ stage ∈ own, stage.StaysWithMessage)
    (id : String) : Way.StaysWith id (runStages own) := by
  induction own with
  | nil => exact fun c named => named
  | cons stage own ih =>
    have later := ih fun other member => stays other (List.mem_cons_of_mem _ member)
    intro c named
    exact ⟨trivial, fun _ => stays stage List.mem_cons_self id _ later c named⟩

theorem request_within {allowed : Request → Prop} {r : Request} (permitted : allowed r) :
    (Flow.ask r .done).within allowed fun _ => True :=
  ⟨permitted, fun _ => trivial⟩

theorem within_logAll (entries : List LogEntry) :
    (Flow.logAll entries).within (Request.staysWith id) fun _ => True := by
  induction entries with
  | nil => exact trivial
  | cons entry rest ih => exact ⟨trivial, fun _ => ih⟩

theorem ofHandler_staysWithMessage (slot : Nat) (name : String) :
    (Stage.ofHandler slot name).StaysWithMessage := by
  intro id rest stays c named
  refine Flow.within_bind (request_within trivial) fun handling _ => ?_
  refine Flow.within_bind (request_within trivial) fun _ _ => ?_
  refine Flow.within_bind (within_logAll _) fun _ _ => ?_
  cases handling.outcome with
  | done => exact stays _ named
  | failed failure => exact named
  | panicked text => exact trivial

theorem handlerStages_stayWithMessage (handlers : List (Nat × String)) :
    ∀ stage ∈ handlerStages handlers, stage.StaysWithMessage := by
  intro stage member
  obtain ⟨handler, -, rfl⟩ := List.mem_map.1 member
  exact ofHandler_staysWithMessage handler.1 handler.2

theorem Probe.staysWithMessage (probe : Probe) (name : String) :
    (⟨name, probe.behaviour⟩ : Stage).StaysWithMessage := by
  intro id rest stays c named
  have first := stays c named
  cases probe with
  | watch label =>
    refine Flow.within_bind (request_within trivial) fun _ _ => ?_
    refine Flow.within_bind first fun p kept => ?_
    exact ⟨trivial, fun _ => kept⟩
  | shortCircuit => exact named
  | abort => exact stays c.abort named
  | twice =>
    refine Flow.within_bind first fun p kept => ?_
    cases p.failure with
    | none => exact stays p.context kept
    | some failure => exact kept
  | swallow =>
    refine Flow.within_bind first fun p kept => ?_
    cases p.failure with
    | none => exact kept
    | some failure => exact ⟨trivial, fun _ => kept⟩
  | replaceBody body => exact stays _ named
  | fail failure => exact Flow.within_bind first fun p kept => kept

end own

def Passage.Same (id : String) (p q : Passage) : Prop := p = q ∧ p.IsOf id

def Way.Echoes (id : String) (way : Way) : Prop :=
  ∀ c, c.message.id = id → (way c).Echoes id (Passage.Same id) (way c)

theorem Way.StaysWith.echoes {id : String} {way : Way} (stays : Way.StaysWith id way) :
    Way.Echoes id way :=
  fun c named => .of_within (stays c named)

section stages
variable {id : String} {rest : Way} {c : Context}

theorem Passage.same_self {p : Passage} (named : p.context.message.id = id) : p.Same id p :=
  ⟨rfl, named⟩

theorem echoes_stage {stage : Stage} {stages : List Stage}
    (echoes : Way.Echoes id (stage.behaviour (runStages stages))) :
    Way.Echoes id (runStages (stage :: stages)) :=
  fun c named => .ask trivial fun _ => echoes c named

theorem echoes_unless_fine {S : Passage → Passage → Prop}
    {f : Passage → Failure → Flow Passage} (echoes : Way.Echoes id rest)
    (named : c.message.id = id) (fine : ∀ p, p.IsOf id → S p p)
    (failed : ∀ p failure, p.IsOf id → (f p failure).Echoes id S (f p failure)) :
    (rest c >>= fun p => match p.failure with
      | none => pure p
      | some failure => f p failure).Echoes id S
      (rest c >>= fun p => match p.failure with
      | none => pure p
      | some failure => f p failure) := by
  refine (echoes c named).bind ?_
  rintro p q ⟨rfl, kept⟩
  cases p.failure with
  | none => exact .done (fine p kept)
  | some failure => exact failed p failure kept

theorem echoes_immediateRetries (echoes : Way.Echoes id rest) (bound : Nat) :
    Way.Echoes id (Stage.immediateRetries bound rest) := by
  intro c named
  refine .ask named fun known => ?_
  refine (echoes c named).bind ?_
  rintro p q ⟨rfl, kept⟩
  cases p.failure with
  | none => exact .ask named fun _ => .done (Passage.same_self kept)
  | some failure =>
    simp only
    split
    · split
      · exact .ask named fun _ => .ask trivial fun _ => .done (Passage.same_self kept)
      · refine .ask named fun _ => .ask trivial fun _ => ?_
        exact .notify (.same _) (.done (Passage.same_self kept))
    · exact .done (Passage.same_self kept)

theorem echoes_grantedDelay (policy : DelayPolicy) (failure : Failure) (m : Incoming) :
    (Stage.grantedDelay policy failure m).Echoes id Eq (Stage.grantedDelay policy failure m) := by
  unfold Stage.grantedDelay
  split
  · have logs : (Flow.logAll m.headers.retryWarnings).Echoes id (fun _ _ => True)
        (Flow.logAll m.headers.retryWarnings) := by
      induction m.headers.retryWarnings with
      | nil => exact .done trivial
      | cons entry entries ih => exact .ask trivial fun _ => ih
    refine logs.bind fun _ _ _ => ?_
    exact .ask trivial fun delay => .done rfl
  · exact .done rfl

theorem echoes_deferMessage (named : c.message.id = id) (failure : Failure) (retry : Nat)
    (delay : Duration) :
    (Stage.deferMessage failure retry delay c).Echoes id (Passage.Same id)
      (Stage.deferMessage failure retry delay c) := by
  refine .now fun time time' => ?_
  refine .dispatch (.delayed _ _ _ _ _ _) fun answer => ?_
  cases answer with
  | some dispatchFailure => exact .ask trivial fun _ => .done (Passage.same_self named)
  | none =>
    refine .ask named fun _ => .ask trivial fun _ => ?_
    exact .notify (.delayed _ _ _ _ _ _) (.done (Passage.same_self named))

theorem echoes_delayedRetriesUsedUp (named : c.message.id = id) (failure : Failure) :
    (Stage.delayedRetriesUsedUp failure c).Echoes id (Passage.Same id)
      (Stage.delayedRetriesUsedUp failure c) := by
  unfold Stage.delayedRetriesUsedUp
  split
  · exact .ask trivial fun _ => .done (Passage.same_self named)
  · exact .done (Passage.same_self named)

theorem echoes_decide (named : c.message.id = id) (mode : DecisionMode) (policy : DelayPolicy)
    (failure : Failure) :
    (mode.decide policy failure c).Echoes id (Passage.Same id) (mode.decide policy failure c) := by
  rw [DecisionMode.decide_eq]
  refine (echoes_grantedDelay policy failure c.message).bind ?_
  rintro granted _ rfl
  cases granted with
  | some grant => exact echoes_deferMessage named failure grant.1 grant.2
  | none =>
    cases mode with
    | onNextDelivery => exact .ask named fun _ => echoes_delayedRetriesUsedUp named failure
    | atOnce => exact echoes_delayedRetriesUsedUp named failure

theorem echoes_delayedRetries (echoes : Way.Echoes id rest) (mode : DecisionMode)
    (policy : DelayPolicy) : Way.Echoes id (Stage.delayedRetries mode policy rest) := by
  intro c named
  cases mode with
  | atOnce =>
    exact echoes_unless_fine echoes named (fun p kept => Passage.same_self kept)
      fun p failure kept => echoes_decide kept .atOnce policy failure
  | onNextDelivery =>
    have fresh := echoes_unless_fine echoes named (S := Passage.Same id)
      (f := fun p failure =>
        if failure.isRetryable then Stage.postponeDelay c.message.id failure p.context
        else Stage.delayedRetriesUsedUp failure p.context)
      (fun p kept => Passage.same_self kept) fun p failure kept => by
        split
        · exact .ask trivial fun _ => .ask named fun _ => .done (Passage.same_self kept)
        · exact echoes_delayedRetriesUsedUp kept failure
    refine .ask named fun known => ?_
    cases known with
    | none => exact fresh
    | some r =>
      obtain ⟨attempts, failure, toErrorQueue, toDelay⟩ := r
      cases toDelay with
      | true => exact echoes_decide named .onNextDelivery policy failure
      | false => exact fresh

def Passage.EndsAlike (p q : Passage) : Prop :=
  p.failure = q.failure ∧ p.context.aborted = q.context.aborted

theorem echoes_forwardToErrorQueue (named : c.message.id = id) (errorQueue : String)
    (failure : Failure) :
    (Stage.forwardToErrorQueue errorQueue failure c).Echoes id Passage.EndsAlike
      (Stage.forwardToErrorQueue errorQueue failure c) := by
  refine .now fun time time' => ?_
  refine .dispatch (.faulted _ _ _ _ _ _) fun answer => ?_
  cases answer with
  | some dispatchFailure => exact .ask trivial fun _ => .done ⟨rfl, rfl⟩
  | none =>
    refine .ask named fun _ => .ask trivial fun _ => ?_
    exact .notify (.faulted _ _ _ _ _) (.done ⟨rfl, rfl⟩)

theorem echoes_errorForward (echoes : Way.Echoes id rest) (mode : DecisionMode)
    (errorQueue : String) (named : c.message.id = id) :
    (Stage.errorForward mode errorQueue rest c).Echoes id Passage.EndsAlike
      (Stage.errorForward mode errorQueue rest c) := by
  cases mode with
  | atOnce =>
    exact echoes_unless_fine echoes named (fun p _ => ⟨rfl, rfl⟩)
      fun p failure kept => echoes_forwardToErrorQueue kept errorQueue failure
  | onNextDelivery =>
    have fresh := echoes_unless_fine echoes named (S := Passage.EndsAlike)
      (f := fun p failure => Stage.postponeForward c.message.id failure p.context)
      (fun p _ => ⟨rfl, rfl⟩) fun p failure kept =>
        .ask trivial fun _ => .ask named fun _ => .done ⟨rfl, rfl⟩
    refine .ask named fun known => ?_
    cases known with
    | none => exact fresh
    | some r =>
      obtain ⟨attempts, failure, toErrorQueue, toDelay⟩ := r
      cases toErrorQueue with
      | true => exact echoes_forwardToErrorQueue named errorQueue failure
      | false => exact fresh

end stages

theorem ReceivePipeline.echoes_invoke {s : Settings} {given : Option DelayPolicy}
    {own : List Stage} {p : ReceivePipeline} (built : build s given own = .ok p)
    (stays : ∀ stage ∈ own, stage.StaysWithMessage) (m : Incoming) :
    (p.invoke m).Echoes m.id Eq (p.invoke m) := by
  have retries : Way.Echoes m.id (runStages (⟨immediateRetriesName,
      Stage.immediateRetries s.immediateRetries.toNat⟩ :: own)) :=
    echoes_stage (echoes_immediateRetries (staysWith_runStages stays m.id).echoes _)
  have chain : (runStages p.stages (p.entry m)).Echoes m.id Passage.EndsAlike
      (runStages p.stages (p.entry m)) := by
    rw [build_eq built]
    simp only [recoverability]
    cases policyOf s given with
    | none => exact .ask trivial fun _ => echoes_errorForward retries _ _ rfl
    | some policy =>
      have delays : Way.Echoes m.id (runStages (⟨delayedRetriesName,
          Stage.delayedRetries (.ofAbortable s.mode.canAbort) policy⟩ ::
            ⟨immediateRetriesName, Stage.immediateRetries s.immediateRetries.toNat⟩ :: own)) :=
        echoes_stage (echoes_delayedRetries retries _ policy)
      exact .ask trivial fun _ => echoes_errorForward delays _ _ rfl
  refine chain.bind ?_
  rintro a b ⟨failure, aborted⟩
  simp only [failure, aborted]
  cases b.failure with
  | some failure => exact .done rfl
  | none => exact .done rfl

end Redelivery
