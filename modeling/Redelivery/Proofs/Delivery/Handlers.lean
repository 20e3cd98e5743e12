import Redelivery.Pipeline.Chain
import Redelivery.Proofs.Delivery.Course
import Redelivery.Rehearsal.Cast

/-! Chains whose stages are handlers. Each handler gets the message as the one before left it, and
the first failure ends the chain. Such a chain only calls its handlers: it leaves the table of
failures, the id and the bytes received as they are, and it does not abort the receive. -/
namespace Redelivery

def handlerStages (handlers : List (Nat × String)) : List Stage :=
  handlers.map fun handler => .ofHandler handler.1 handler.2

theorem handlerStages_cons (slot : Nat) (name : String) (rest : List (Nat × String)) :
    handlerStages ((slot, name) :: rest) = .ofHandler slot name :: handlerStages rest := rfl

theorem isRetryable_claimedBy (failure : Failure) (stage : String) :
    (failure.claimedBy stage).isRetryable = failure.isRetryable := by
  cases failure <;> rfl

def Incoming.handledBy (m : Incoming) (handling : Handling) : Incoming :=
  { m with headers := handling.headers, body := handling.body }

/-- What a chain of handlers did with a message, and how the last of them ended. -/
structure Handled (σ : Type) where
  message : Incoming
  verdict : HandlerOutcome
  outside : σ
  deeds : List Deed

def Handled.after {σ : Type} (earlier : List Deed) (r : Handled σ) : Handled σ :=
  { r with deeds := earlier ++ r.deeds }

namespace Outside
variable {σ : Type} (o : Outside σ)

/-- No handler of a chain panics. -/
def Calm (handlers : List (Nat × String)) : Prop :=
  ∀ handler ∈ handlers, ∀ m s text, (o.handle handler.1 m s).1.outcome ≠ .panicked text

def KeepsHeaders (handlers : List (Nat × String)) : Prop :=
  ∀ handler ∈ handlers, ∀ m s, (o.handle handler.1 m s).1.headers = m.headers

/-- The handlers of a chain, one after another, up to the first that is not done. -/
def handleAll : List (Nat × String) → Incoming → σ → Handled σ
  | [], m, s => ⟨m, .done, s, []⟩
  | (slot, name) :: rest, m, s =>
    let handling := (o.handle slot m s).1
    let s' := (o.handle slot m s).2
    let deeds := [.entered name m.id, .called slot name m handling]
    match handling.outcome with
    | .done => (handleAll rest (m.handledBy handling) s').after deeds
    | .failed failure => ⟨m.handledBy handling, .failed (failure.claimedBy name), s', deeds⟩
    | .panicked text => ⟨m.handledBy handling, .panicked text, s', deeds⟩

theorem handleAll_induction {P : List (Nat × String) → Incoming → σ → Handled σ → Prop}
    (empty : ∀ m s, P [] m s ⟨m, .done, s, []⟩)
    (done : ∀ slot name rest m s r, (o.handle slot m s).1.outcome = .done →
      P rest (m.handledBy (o.handle slot m s).1) (o.handle slot m s).2 r →
      P ((slot, name) :: rest) m s
        (r.after [.entered name m.id, .called slot name m (o.handle slot m s).1]))
    (failed : ∀ slot name rest m s failure, (o.handle slot m s).1.outcome = .failed failure →
      P ((slot, name) :: rest) m s
        ⟨m.handledBy (o.handle slot m s).1, .failed (failure.claimedBy name),
          (o.handle slot m s).2, [.entered name m.id, .called slot name m (o.handle slot m s).1]⟩)
    (panicked : ∀ slot name rest m s text, (o.handle slot m s).1.outcome = .panicked text →
      P ((slot, name) :: rest) m s
        ⟨m.handledBy (o.handle slot m s).1, .panicked text,
          (o.handle slot m s).2, [.entered name m.id, .called slot name m (o.handle slot m s).1]⟩)
    (handlers : List (Nat × String)) (m : Incoming) (s : σ) :
    P handlers m s (o.handleAll handlers m s) := by
  induction handlers generalizing m s with
  | nil => exact empty m s
  | cons handler rest ih =>
    obtain ⟨slot, name⟩ := handler
    rw [handleAll]
    cases outcome : (o.handle slot m s).1.outcome with
    | done => exact done slot name rest m s _ outcome (ih _ _)
    | failed failure => exact failed slot name rest m s failure outcome
    | panicked text => exact panicked slot name rest m s text outcome

theorem Calm.verdict {o : Outside σ} {handlers : List (Nat × String)} (calm : o.Calm handlers)
    (m : Incoming) (s : σ) (text : String) : (o.handleAll handlers m s).verdict ≠ .panicked text := by
  have along := o.handleAll_induction
    (P := fun handlers _ _ r => o.Calm handlers → r.verdict ≠ .panicked text)
    ?empty ?done ?failed ?panicked handlers m s
  case empty =>
    intro _ _ _ h
    cases h
  case done =>
    intro slot name rest m s r _ ih calm
    exact ih fun h member => calm h (List.mem_cons_of_mem _ member)
  case failed =>
    intro slot name rest m s failure _ _ h
    cases h
  case panicked =>
    intro slot name rest m s text' outcome calm _
    exact calm (slot, name) List.mem_cons_self m s text' outcome
  exact along calm

end Outside

def HandlerOutcome.ending (c : Context) : HandlerOutcome → Ended Passage
  | .done => .done { context := c }
  | .failed failure => .done { context := c, failure := some failure }
  | .panicked text => .panicked text

section chain
variable {σ : Type} (o : Outside σ) (handlers : List (Nat × String))

theorem course_runStages (stage : Stage) (rest : List Stage) (c : Context) (w : World σ) :
    (runStages (stage :: rest) c).course o w =
      ((stage.behaviour (runStages rest) c).course o w).after
        [.entered stage.name c.message.id] := rfl

theorem course_handling (slot : Nat) (name : String) (rest : Way) (c : Context) (w : World σ) :
    ((Stage.ofHandler slot name).behaviour rest c).course o w =
      let h := (o.handle slot c.message w.outside).1
      let c' := { c with message := c.message.handledBy h }
      let w' := { w with outside := (o.handle slot c.message w.outside).2 }
      (match h.outcome with
        | .done => (rest c').course o w'
        | .failed failure =>
          ⟨.done { context := c', failure := some (failure.claimedBy name) }, w', []⟩
        | .panicked text => ⟨.panicked text, w', []⟩).after [.called slot name c.message h] := by
  simp only [Stage.ofHandler, Stage.handling, Flow.course_handle, Flow.course_pause,
    Flow.course_logAll]
  dsimp only [Incoming.handledBy]
  cases (o.handle slot c.message w.outside).1.outcome <;> rfl

theorem course_handlers (c : Context) (w : World σ) :
    (runStages (handlerStages handlers) c).course o w =
      let r := o.handleAll handlers c.message w.outside
      ⟨r.verdict.ending { c with message := r.message }, { w with outside := r.outside },
        r.deeds⟩ := by
  have along := o.handleAll_induction
    (P := fun handlers m s r => ∀ (c : Context) (w : World σ), c.message = m → w.outside = s →
      (runStages (handlerStages handlers) c).course o w =
        ⟨r.verdict.ending { c with message := r.message }, { w with outside := r.outside },
          r.deeds⟩)
    ?empty ?done ?failed ?panicked handlers c.message w.outside
  case empty =>
    rintro m s c w rfl rfl
    rfl
  case done =>
    rintro slot name rest m s r outcome ih c w rfl rfl
    have later := ih { c with message := c.message.handledBy (o.handle slot c.message w.outside).1 }
      { w with outside := (o.handle slot c.message w.outside).2 } rfl rfl
    rw [handlerStages_cons, course_runStages, course_handling]
    simp only [outcome]
    rw [later]
    rfl
  case failed =>
    rintro slot name rest m s failure outcome c w rfl rfl
    rw [handlerStages_cons, course_runStages, course_handling]
    simp only [outcome]
    rfl
  case panicked =>
    rintro slot name rest m s text outcome c w rfl rfl
    rw [handlerStages_cons, course_runStages, course_handling]
    simp only [outcome]
    rfl
  exact along c w rfl rfl

theorem handleAll_id (m : Incoming) (s : σ) : (o.handleAll handlers m s).message.id = m.id :=
  o.handleAll_induction (P := fun _ m _ r => r.message.id = m.id) (fun _ _ => rfl)
    (fun _ _ _ _ _ _ _ ih => ih) (fun _ _ _ _ _ _ _ => rfl) (fun _ _ _ _ _ _ _ => rfl)
    handlers m s

theorem handleAll_originalBody (m : Incoming) (s : σ) :
    (o.handleAll handlers m s).message.originalBody = m.originalBody :=
  o.handleAll_induction (P := fun _ m _ r => r.message.originalBody = m.originalBody)
    (fun _ _ => rfl) (fun _ _ _ _ _ _ _ ih => ih) (fun _ _ _ _ _ _ _ => rfl)
    (fun _ _ _ _ _ _ _ => rfl) handlers m s

theorem handleAll_headers (keeps : o.KeepsHeaders handlers) (m : Incoming) (s : σ) :
    (o.handleAll handlers m s).message.headers = m.headers := by
  have along := o.handleAll_induction
    (P := fun handlers m _ r => o.KeepsHeaders handlers → r.message.headers = m.headers)
    (fun _ _ _ => rfl) ?done ?failed ?panicked handlers m s
  case done =>
    intro slot name rest m s r _ ih keeps
    exact (ih fun h member => keeps h (List.mem_cons_of_mem _ member)).trans
      (keeps (slot, name) List.mem_cons_self m s)
  case failed =>
    intro slot name rest m s failure _ keeps
    exact keeps (slot, name) List.mem_cons_self m s
  case panicked =>
    intro slot name rest m s text _ keeps
    exact keeps (slot, name) List.mem_cons_self m s
  exact along keeps

end chain

namespace Cast

def declined : FailureRecipe := { source := .wrapped "orders::Declined" { text := "declined" } }

/-- A cast whose handler fails in every call, and none of whose dispatches succeeds at first. -/
def stumbling : Cast where
  handlers := [{ name := "Billing", script := { after := { failure := some declined } } }]
  dispatches := [.refuse "down", .refuse "down"]
  clock := ⟨0, 0⟩

theorem stumbling_calm : stumbling.outside.Calm [(0, "Billing")] := by
  intro handler member m s text
  cases List.mem_singleton.1 member
  simp [outside, host, handle, stumbling, ScriptedHandler.part, Script.act, Act.perform,
    Act.outcome]

theorem stumbling_keepsHeaders : stumbling.outside.KeepsHeaders [(0, "Billing")] := by
  intro handler member m s
  cases List.mem_singleton.1 member
  simp [outside, host, handle, stumbling, ScriptedHandler.part, Script.act, Act.perform,
    Act.headers]

end Cast

end Redelivery
