import Redelivery.Proofs.Delivery.Forwarding

/-! The deliveries of a message through a pipeline of handlers. One delivery is one way through
the chain; a message is processed by delivering it again after every delivery that was aborted,
each one in the world that the one before it left. -/
namespace Redelivery

def Passage.delivery (p : Passage) : Delivery :=
  match p.failure with
  | some failure => .failed failure
  | none => if p.context.aborted then .aborted else .completed

theorem Passage.delivery_completed {p : Passage} (fine : p.failure = none)
    (kept : p.context.aborted = false) : p.delivery = .completed := by
  simp [delivery, fine, kept]

theorem Passage.delivery_aborted {p : Passage} (fine : p.failure = none)
    (aborted : p.context.aborted = true) : p.delivery = .aborted := by
  simp [delivery, fine, aborted]

theorem Passage.delivery_failed {p : Passage} {failure : Failure}
    (failed : p.failure = some failure) : p.delivery = .failed failure := by
  simp [delivery, failed]

theorem Passage.of_aborted {p : Passage} (aborted : p.delivery = .aborted) :
    p.failure = none ∧ p.context.aborted = true := by
  rw [Passage.delivery] at aborted
  cases failed : p.failure with
  | some failure => simp [failed] at aborted
  | none =>
    cases marked : p.context.aborted with
    | false => simp [failed, marked] at aborted
    | true => exact ⟨rfl, rfl⟩

namespace ReceivePipeline
variable {σ : Type} {o : Outside σ} {handlers : List (Nat × String)} {s : Settings}
  {given : Option DelayPolicy} {p : ReceivePipeline} {m : Incoming} {w w' : World σ}
  {ds : List Deed}

def entry (p : ReceivePipeline) (m : Incoming) : Context := { message := m, address := p.address }

def modeOf (s : Settings) : DecisionMode := .ofAbortable s.mode.canAbort

theorem modeOf_abortable (abortable : s.mode.canAbort = true) : modeOf s = .onNextDelivery := by
  simp [modeOf, abortable, DecisionMode.ofAbortable]

theorem build_ok (receives : s.sendOnly = false) (valid : s.validate = .ok ())
    (given : Option DelayPolicy) (own : List Stage) :
    build s given own = .ok { stages := recoverability s given ++ own, address := s.address } := by
  unfold build
  rw [receives, valid]
  rfl

theorem build_eq {own : List Stage} (built : build s given own = .ok p) :
    p = { stages := recoverability s given ++ own, address := s.address } := by
  unfold build at built
  cases only : s.sendOnly with
  | true =>
    rw [only] at built
    cases built
  | false =>
    rw [only] at built
    cases valid : s.validate with
    | error e =>
      rw [valid] at built
      cases built
    | ok _ =>
      rw [valid] at built
      cases built
      rfl

theorem stages_of_handlers (built : build s given (handlerStages handlers) = .ok p) :
    p.stages = allStages (modeOf s) (policyOf s given) s.errorQueue s.immediateRetries.toNat
      handlers := by
  rw [build_eq built]
  simp [recoverability, allStages, retryStages, modeOf]

theorem exists_stages {own : List Stage} (built : build s given own = .ok p) :
    ∃ rest, p.stages = ⟨errorForwardName, Stage.errorForward (modeOf s) s.errorQueue⟩ :: rest := by
  rw [build_eq built]
  exact ⟨_, rfl⟩

theorem address_of_build {own : List Stage} (built : build s given own = .ok p) :
    p.address = s.address := by
  rw [build_eq built]

theorem course_invoke {passage : Passage}
    (way : (runStages p.stages (p.entry m)).course o w = ⟨.done passage, w', ds⟩) :
    (p.invoke m).course o w = ⟨.done passage.delivery, w', ds⟩ := by
  simp only [entry] at way
  simp only [invoke]
  rw [Flow.course_bind_done _ _ way, Passage.delivery]
  cases passage.failure with
  | some failure => simp [Flow.course_pure]
  | none => simp [Flow.course_pure]

theorem course_invoke_panicked {text : String}
    (way : (runStages p.stages (p.entry m)).course o w = ⟨.panicked text, w', ds⟩) :
    (p.invoke m).course o w = ⟨.panicked text, w', ds⟩ := by
  simp only [entry] at way
  simp only [invoke]
  rw [Flow.course_bind_panicked _ _ way]

theorem deeds_invoke (o : Outside σ) (p : ReceivePipeline) (m : Incoming) (w : World σ) :
    ((p.invoke m).course o w).deeds = ((runStages p.stages (p.entry m)).course o w).deeds := by
  cases way : (runStages p.stages (p.entry m)).course o w with
  | mk ended w' ds =>
    cases ended with
    | done passage => rw [course_invoke way]
    | panicked text => rw [course_invoke_panicked way]

theorem course_invoke_of_delivers (built : build s given (handlerStages handlers) = .ok p)
    {passage : Passage}
    (delivers : Delivers o handlers s.immediateRetries.toNat (modeOf s) (policyOf s given)
      s.errorQueue (p.entry m) w passage w' ds) :
    (p.invoke m).course o w = ⟨.done passage.delivery, w', ds⟩ := by
  apply course_invoke
  rw [stages_of_handlers built]
  exact delivers.course

theorem exists_course_invoke (built : build s given (handlerStages handlers) = .ok p)
    (calm : o.Calm handlers) (m : Incoming) (w : World σ) :
    ∃ passage w' ds,
      Delivers o handlers s.immediateRetries.toNat (modeOf s) (policyOf s given) s.errorQueue
        (p.entry m) w passage w' ds ∧
      (p.invoke m).course o w = ⟨.done passage.delivery, w', ds⟩ := by
  obtain ⟨passage, w', ds, delivers⟩ := exists_delivers
    (calm.verdict (p.entry m).message w.outside) s.immediateRetries.toNat (modeOf s)
    (policyOf s given) s.errorQueue
  exact ⟨passage, w', ds, delivers, course_invoke_of_delivers built delivers⟩

theorem course_invoke_pending {own : List Stage} (built : build s given own = .ok p)
    (later : modeOf s = .onNextDelivery) {failure : Failure}
    (pending : w.table.pendingForward m.id = some failure) (o : Outside σ) :
    ∃ passage w' ds, Forwards o s.errorQueue failure (p.entry m) w passage w' ds ∧
      (p.invoke m).course o w = ⟨.done passage.delivery, w', .entered errorForwardName m.id :: ds⟩ := by
  obtain ⟨passage, w', ds, forwards⟩ := exists_forwards o s.errorQueue failure (p.entry m) w
  obtain ⟨rest, stages⟩ := exists_stages built
  refine ⟨passage, w', ds, forwards, course_invoke ?_⟩
  rw [stages, later, course_runStages, course_errorForward_pending pending, forwards.course]
  rfl

/-- A delivery goes one of its ways, unless it reaches a handler that panics. -/
theorem delivers_or_panicked (built : build s given (handlerStages handlers) = .ok p)
    (o : Outside σ) (m : Incoming) (w : World σ) :
    (∃ passage w' ds,
      Delivers o handlers s.immediateRetries.toNat (modeOf s) (policyOf s given) s.errorQueue
        (p.entry m) w passage w' ds ∧
      (p.invoke m).course o w = ⟨.done passage.delivery, w', ds⟩) ∨
    ∃ text w' ds, (o.handleAll handlers m w.outside).verdict = .panicked text ∧
      (p.invoke m).course o w = ⟨.panicked text, w', ds⟩ ∧
      ds.filter Deed.isAct = (o.handleAll handlers m w.outside).deeds.filter Deed.isAct := by
  by_cases plain : w.table.Undecided (modeOf s) (policyOf s given) m.id
  · by_cases quiet : ∃ text, (o.handleAll handlers m w.outside).verdict = .panicked text
    · obtain ⟨text, panic⟩ := quiet
      obtain ⟨ds, way, acts⟩ := course_allStages_panicked (c := p.entry m) plain rfl panic
        s.errorQueue s.immediateRetries.toNat
      rw [← stages_of_handlers built] at way
      exact .inr ⟨text, _, ds, panic, course_invoke_panicked way, acts⟩
    · obtain ⟨passage, w', ds, delivers⟩ := exists_delivers (c := p.entry m) (w := w)
        (fun text panic => quiet ⟨text, panic⟩) s.immediateRetries.toNat (modeOf s)
        (policyOf s given) s.errorQueue
      exact .inl ⟨passage, w', ds, delivers, course_invoke_of_delivers built delivers⟩
  · obtain ⟨passage, w', ds, delivers⟩ := exists_delivers_of_decided (c := p.entry m) handlers
      s.immediateRetries.toNat s.errorQueue plain o
    exact .inl ⟨passage, w', ds, delivers, course_invoke_of_delivers built delivers⟩

section processing
variable (allowed earlier : Nat)

theorem course_processWithin_completed
    (first : (p.invoke m).course o w = ⟨.done .completed, w', ds⟩) :
    (p.processWithin m (allowed + 1) earlier).course o w =
      ⟨.done (.settled (earlier + 1)), w', ds⟩ := by
  rw [processWithin, Flow.course_bind_done _ _ first]
  simp [Flow.course_pure]

theorem course_processWithin_failed {failure : Failure}
    (first : (p.invoke m).course o w = ⟨.done (.failed failure), w', ds⟩) :
    (p.processWithin m (allowed + 1) earlier).course o w =
      ⟨.done (.failed failure), w', ds⟩ := by
  rw [processWithin, Flow.course_bind_done _ _ first]
  simp [Flow.course_pure]

theorem course_processWithin_aborted
    (first : (p.invoke m).course o w = ⟨.done .aborted, w', ds⟩) :
    (p.processWithin m (allowed + 1) earlier).course o w =
      ((p.processWithin m allowed (earlier + 1)).course o w').after ds := by
  rw [processWithin, Flow.course_bind_done _ _ first]
  simp [Flow.course_log]

theorem course_processWithin_panicked {text : String}
    (first : (p.invoke m).course o w = ⟨.panicked text, w', ds⟩) :
    (p.processWithin m (allowed + 1) earlier).course o w = ⟨.panicked text, w', ds⟩ := by
  rw [processWithin, Flow.course_bind_panicked _ _ first]

end processing

/-- The deliveries that processing a message consists of. -/
def passes (o : Outside σ) (p : ReceivePipeline) (m : Incoming) :
    Nat → World σ → List (Course σ Delivery)
  | 0, _ => []
  | allowed + 1, w =>
    let pass := (p.invoke m).course o w
    match pass.ended with
    | .done .aborted => pass :: passes o p m allowed pass.world
    | _ => [pass]

end ReceivePipeline
end Redelivery
