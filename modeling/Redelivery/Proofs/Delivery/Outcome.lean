import Redelivery.Proofs.Delivery.Invocation

/-! What the deeds of one delivery add up to. A delivery that is aborted has sent nothing; one that
completes was settled by its handlers alone or by one operation that was sent, in both cases
without a record left behind; and one that fails was refused its way to the error queue. -/
namespace Redelivery

/-- What deeds add up to: the stages entered, how handlers ended, the operations sent, those that
could not be sent with their failures, and the failures of critical alarms. -/
structure Tally where
  entered : List String := []
  outcomes : List HandlerOutcome := []
  sent : List Operation := []
  refused : List (Operation × Failure) := []
  alarms : List Failure := []

namespace Tally

def Complete (n : Tally) (names : List String) : Prop :=
  n.entered = names ∧ ∀ outcome ∈ n.outcomes, outcome = .done

/-- One alarm was raised for each operation that could not be sent, with its failure. -/
def Alarmed (n : Tally) : Prop := n.alarms = n.refused.map (·.2)

def add (a b : Tally) : Tally :=
  ⟨a.entered ++ b.entered, a.outcomes ++ b.outcomes, a.sent ++ b.sent, a.refused ++ b.refused,
    a.alarms ++ b.alarms⟩

@[simp] theorem entered_add (a b : Tally) : (a.add b).entered = a.entered ++ b.entered := rfl
@[simp] theorem outcomes_add (a b : Tally) : (a.add b).outcomes = a.outcomes ++ b.outcomes := rfl
@[simp] theorem sent_add (a b : Tally) : (a.add b).sent = a.sent ++ b.sent := rfl
@[simp] theorem refused_add (a b : Tally) : (a.add b).refused = a.refused ++ b.refused := rfl
@[simp] theorem alarms_add (a b : Tally) : (a.add b).alarms = a.alarms ++ b.alarms := rfl

theorem add_assoc (a b c : Tally) : (a.add b).add c = a.add (b.add c) := by
  simp [add, List.append_assoc]

theorem Alarmed.add {a b : Tally} (first : a.Alarmed) (second : b.Alarmed) :
    (a.add b).Alarmed := by
  simp only [Alarmed] at first second ⊢
  simp [first, second]

end Tally

def Deed.tally : Deed → Tally
  | .entered stage _ => { entered := [stage] }
  | .called _ _ _ handling => { outcomes := [handling.outcome] }
  | .dispatched op none => { sent := [op] }
  | .dispatched op (some failure) => { refused := [(op, failure)] }
  | .critical _ failure => { alarms := [failure] }
  | .consulted .. => {}
  | .notified _ => {}

def tally : List Deed → Tally
  | [] => {}
  | deed :: ds => deed.tally.add (tally ds)

def Course.tally {σ α : Type} (run : Course σ α) : Tally := Redelivery.tally run.deeds

@[simp] theorem tally_nil : tally [] = {} := rfl

@[simp] theorem tally_cons (deed : Deed) (ds : List Deed) :
    tally (deed :: ds) = deed.tally.add (tally ds) := rfl

@[simp] theorem tally_append (a b : List Deed) : tally (a ++ b) = (tally a).add (tally b) := by
  induction a with
  | nil => simp [Tally.add]
  | cons deed a ih => simp [ih, Tally.add_assoc]

/-- A copy that comes back to the endpoint after a delay. -/
def Operation.IsDelayedCopy (op : Operation) (s : Settings) : Prop :=
  op.destination = s.address ∧ ∃ delay, op.delays = [delay]

def Operation.IsForward (op : Operation) (s : Settings) : Prop :=
  op.destination = s.errorQueue ∧ op.delays = []

theorem Operation.IsForward.not_copy {op : Operation} {s : Settings} (forward : op.IsForward s) :
    ¬op.IsDelayedCopy s := by
  rintro ⟨_, delay, delays⟩
  rw [forward.2] at delays
  cases delays

section parts
variable {σ : Type} {o : Outside σ} {handlers : List (Nat × String)} {bound : Nat}
  {mode : DecisionMode} {policy : Option DelayPolicy} {asked : DelayPolicy}
  {errorQueue : String} {failure : Failure} {c : Context} {w w' : World σ} {p : Passage}
  {ds : List Deed} {s : Settings}

theorem handleAll_sends_nothing (o : Outside σ) (handlers : List (Nat × String)) (m : Incoming)
    (s : σ) :
    let n := tally (o.handleAll handlers m s).deeds
    n.sent = [] ∧ n.refused = [] ∧ n.alarms = [] :=
  o.handleAll_induction
    (P := fun _ _ _ r => (tally r.deeds).sent = [] ∧ (tally r.deeds).refused = [] ∧
      (tally r.deeds).alarms = [])
    (fun _ _ => ⟨rfl, rfl, rfl⟩) (fun _ _ _ _ _ _ _ ih => ih)
    (fun _ _ _ _ _ _ _ => ⟨rfl, rfl, rfl⟩) (fun _ _ _ _ _ _ _ => ⟨rfl, rfl, rfl⟩) handlers m s

theorem handleAll_complete (o : Outside σ) (handlers : List (Nat × String)) (m : Incoming)
    (s : σ) :
    (tally (o.handleAll handlers m s).deeds).Complete (handlers.map (·.2)) ↔
      (o.handleAll handlers m s).verdict = .done := by
  apply o.handleAll_induction
    (P := fun handlers _ _ r => (tally r.deeds).Complete (handlers.map (·.2)) ↔ r.verdict = .done)
  case empty =>
    intro m s
    simp [Tally.Complete]
  case done =>
    intro slot name rest m s r outcome ih
    rw [Handled.after, ← ih]
    simp [Tally.Complete, Deed.tally, outcome]
  case failed =>
    intro slot name rest m s failure outcome
    simp [Tally.Complete, Deed.tally, outcome]
  case panicked =>
    intro slot name rest m s text outcome
    simp [Tally.Complete, Deed.tally, outcome]

theorem Tries.sends_nothing (tries : Tries o handlers bound c w p w' ds) :
    (tally ds).sent = [] ∧ (tally ds).refused = [] ∧ (tally ds).alarms = [] := by
  have quiet := handleAll_sends_nothing o handlers c.message w.outside
  cases tries with
  | succeeded handled done =>
    subst handled
    exact quiet
  | absorbed handled failed retryable left told =>
    subst handled
    simpa [Deed.tally] using quiet
  | usedUp handled failed retryable spent =>
    subst handled
    exact quiet
  | unreadable handled failed hopeless =>
    subst handled
    exact quiet

theorem Tries.complete (tries : Tries o handlers bound c w p w' ds) (kept : c.aborted = false)
    (complete : (tally ds).Complete (handlers.map (·.2))) :
    p.failure = none ∧ p.context.aborted = false ∧ w'.table.lookup c.message.id = none := by
  have all := handleAll_complete o handlers c.message w.outside
  cases tries with
  | succeeded handled done => exact ⟨rfl, kept, by simp⟩
  | absorbed handled failed retryable left told =>
    subst handled
    have done := all.1 (by simpa [Tally.Complete, Deed.tally] using complete)
    cases failed.symm.trans done
  | usedUp handled failed retryable spent =>
    subst handled
    cases failed.symm.trans (all.1 complete)
  | unreadable handled failed hopeless =>
    subst handled
    cases failed.symm.trans (all.1 complete)

theorem Tries.completed (tries : Tries o handlers bound c w p w' ds) (fine : p.failure = none)
    (kept : p.context.aborted = false) : (tally ds).Complete (handlers.map (·.2)) := by
  cases tries with
  | succeeded handled done =>
    subst handled
    exact (handleAll_complete o handlers c.message w.outside).2 done
  | absorbed handled failed retryable left told => cases kept
  | usedUp handled failed retryable spent => cases fine
  | unreadable handled failed hopeless => cases fine

/-- The ways of a delivery out of the stage of delayed retries, by what was done: handled, sent
back with a delay, to be repeated, or failed with nothing but copies refused. -/
inductive Balance (s : Settings) (id : String) (names : List String) (n : Tally) (p : Passage)
    (t : FailureTable) : Prop where
  | handled (fine : p.failure = none) (kept : p.context.aborted = false)
      (complete : n.Complete names) (idle : n.sent = []) (unrefused : n.refused = [])
      (forgotten : t.lookup id = none)
  | deferred {op : Operation} (fine : p.failure = none) (kept : p.context.aborted = false)
      (gone : n.sent = [op]) (copy : op.IsDelayedCopy s) (unrefused : n.refused = [])
      (forgotten : t.lookup id = none)
  | aborted (fine : p.failure = none) (aborted : p.context.aborted = true)
      (partly : ¬n.Complete names) (idle : n.sent = []) (unrefused : n.refused = [])
  | failed {failure : Failure} (failed : p.failure = some failure)
      (kept : p.context.aborted = false) (partly : ¬n.Complete names) (idle : n.sent = [])
      (copies : ∀ r ∈ n.refused, r.1.IsDelayedCopy s)

theorem Defers.no_attempt (defers : Defers o mode asked failure c w p w' ds) :
    (tally ds).entered = [] ∧ (tally ds).outcomes = [] := by
  cases defers <;> exact ⟨rfl, rfl⟩

theorem Defers.alarmed (defers : Defers o mode asked failure c w p w' ds) :
    (tally ds).Alarmed := by
  cases defers <;> rfl

theorem Defers.balance (defers : Defers o mode asked failure c w p w' ds) (kept : c.aborted = false)
    (here : c.address = s.address) {names : List String} {n : Tally}
    (partly : ¬n.Complete names) (sent : n.sent = (tally ds).sent)
    (refused : n.refused = (tally ds).refused) :
    Balance s c.message.id names n p w'.table := by
  cases defers with
  | sent retryable granted left copy accepted told =>
    subst copy
    exact .deferred rfl kept sent ⟨here, _, rfl⟩ refused (by simp)
  | refused retryable granted left copy dispatchRefused =>
    subst copy
    refine .failed rfl kept partly sent ?_
    rw [refused]
    intro r member
    simp only [tally_cons, Deed.tally, tally_nil, Tally.refused_add, List.nil_append,
      List.append_nil, List.mem_singleton] at member
    subst member
    exact ⟨here, _, rfl⟩
  | denied retryable denied left =>
    refine .failed rfl kept partly sent ?_
    rw [refused]
    simp [Deed.tally]
  | unasked hopeless =>
    refine .failed rfl kept partly sent ?_
    rw [refused]
    simp

theorem complete_entered (stage id : String) (ds : List Deed) (names : List String) :
    (tally (.entered stage id :: ds)).Complete (stage :: names) ↔ (tally ds).Complete names := by
  simp [Tally.Complete, Deed.tally]

theorem complete_add {a b : Tally} (still : b.entered = [] ∧ b.outcomes = [])
    (names : List String) : (a.add b).Complete names ↔ a.Complete names := by
  simp [Tally.Complete, still.1, still.2]

theorem names_handlerStages (handlers : List (Nat × String)) :
    (handlerStages handlers).map (·.name) = handlers.map (·.2) := by
  simp [handlerStages, Stage.ofHandler]

theorem names_retryStages (mode : DecisionMode) (bound : Nat) (handlers : List (Nat × String)) :
    (retryStages mode none bound handlers).map (·.name) =
      ReceivePipeline.immediateRetriesName :: handlers.map (·.2) := by
  rw [retryStages, Option.map_none, Option.toList_none, List.nil_append, List.map_cons,
    names_handlerStages]

theorem Balance.entered {id : String} {names : List String} {t : FailureTable}
    (balance : Balance s id names (tally ds) p t) (stage message : String) :
    Balance s id (stage :: names) (tally (.entered stage message :: ds)) p t := by
  have same := complete_entered stage message ds names
  cases balance with
  | handled fine kept complete idle unrefused forgotten =>
    exact .handled fine kept (same.2 complete) idle unrefused forgotten
  | deferred fine kept gone copy unrefused forgotten =>
    exact .deferred fine kept gone copy unrefused forgotten
  | aborted fine aborted partly idle unrefused =>
    exact .aborted fine aborted (mt same.1 partly) idle unrefused
  | failed failed kept partly idle copies =>
    exact .failed failed kept (mt same.1 partly) idle copies

theorem Tries.partly (tries : Tries o handlers bound c w p w' ds) (kept : c.aborted = false)
    (failed : p.failure = some failure) : ¬(tally ds).Complete (handlers.map (·.2)) := by
  intro complete
  cases failed.symm.trans (tries.complete kept complete).1

theorem Tries.partly_entered (tries : Tries o handlers bound c w p w' ds)
    (kept : c.aborted = false) (failed : p.failure = some failure) (mode : DecisionMode) :
    ¬(tally (.entered ReceivePipeline.delayedRetriesName c.message.id ::
      attemptDeeds c ds)).Complete (ReceivePipeline.delayedRetriesName ::
        (retryStages mode none bound handlers).map (·.name)) := by
  rw [complete_entered, attemptDeeds, names_retryStages, complete_entered]
  exact tries.partly kept failed

theorem Tries.balance (tries : Tries o handlers bound c w p w' ds) (kept : c.aborted = false)
    (s : Settings) :
    Balance s c.message.id (handlers.map (·.2)) (tally ds) p w'.table := by
  obtain ⟨idle, unrefused, _⟩ := tries.sends_nothing
  cases failed : p.failure with
  | some failure =>
    exact .failed failed ((tries.aborted failed).trans kept) (tries.partly kept failed) idle
      (by simp [unrefused])
  | none =>
    cases aborted : p.context.aborted with
    | false =>
      have complete := tries.completed failed aborted
      exact .handled failed aborted complete idle unrefused (tries.complete kept complete).2.2
    | true =>
      refine .aborted failed aborted (fun complete => ?_) idle unrefused
      cases aborted.symm.trans (tries.complete kept complete).2.1

theorem Delays.balance (delays : Delays o handlers bound mode c w policy p w' ds)
    (kept : c.aborted = false) (here : c.address = s.address) :
    Balance s c.message.id ((retryStages mode policy bound handlers).map (·.name)) (tally ds) p
      w'.table := by
  cases delays with
  | absent tries =>
    rw [names_retryStages]
    exact (tries.balance kept s).entered _ _
  | resumed later pending defers =>
    refine defers.balance kept here ?_ (by simp [Deed.tally]) (by simp [Deed.tally])
    simp [Tally.Complete, Deed.tally, retryStages, defers.no_attempt.1]
  | passed fresh tries fine =>
    rw [retryStages_some, List.map_cons, names_retryStages]
    exact ((tries.balance kept s).entered _ _).entered _ _
  | postponed later fresh tries failed retryable =>
    rw [retryStages_some, List.map_cons]
    exact .aborted rfl rfl (tries.partly_entered kept failed mode) tries.sends_nothing.1
      tries.sends_nothing.2.1
  | unreadable later fresh tries failed hopeless =>
    rw [retryStages_some, List.map_cons]
    refine .failed rfl ((tries.aborted failed).trans kept) (tries.partly_entered kept failed mode)
      tries.sends_nothing.1 ?_
    simp [attemptDeeds, Deed.tally, tries.sends_nothing.2.1]
  | decided now tries failed defers =>
    rw [retryStages_some, List.map_cons, ← tries.keeps.1]
    refine defers.balance ((tries.aborted failed).trans kept) (tries.keeps.2.trans here) ?_ ?_ ?_
    · rw [tally_append, complete_add defers.no_attempt, tries.keeps.1]
      exact tries.partly_entered kept failed mode
    · simp [attemptDeeds, Deed.tally, tries.sends_nothing.1]
    · simp [attemptDeeds, Deed.tally, tries.sends_nothing.2.1]

theorem forall_refused {n : Tally} {P : Operation × Failure → Prop} (unrefused : n.refused = []) :
    ∀ r ∈ n.refused, P r := by
  simp [unrefused]

/-- The ways of one delivery, by what was done: handled, settled by one operation, to be repeated,
or failed because a forward was refused. -/
inductive Account (s : Settings) (id : String) (names : List String) (n : Tally)
    (t : FailureTable) : Delivery → Prop where
  | handled (complete : n.Complete names) (idle : n.sent = []) (unrefused : n.refused = [])
      (forgotten : t.lookup id = none) : Account s id names n t .completed
  | sent {op : Operation} (gone : n.sent = [op]) (kind : op.IsDelayedCopy s ∨ op.IsForward s)
      (copies : ∀ r ∈ n.refused, r.1.IsDelayedCopy s) (forgotten : t.lookup id = none) :
      Account s id names n t .completed
  | aborted (partly : ¬n.Complete names) (idle : n.sent = [])
      (copies : ∀ r ∈ n.refused, r.1.IsDelayedCopy s) : Account s id names n t .aborted
  | failed {copies : List (Operation × Failure)} {op : Operation} {failure : Failure}
      (partly : ¬n.Complete names) (idle : n.sent = [])
      (copy : ∀ r ∈ copies, r.1.IsDelayedCopy s) (forward : op.IsForward s)
      (refused : n.refused = copies ++ [(op, failure)]) :
      Account s id names n t (.failed failure)

theorem Forwards.no_attempt (forwards : Forwards o errorQueue failure c w p w' ds) :
    (tally ds).entered = [] ∧ (tally ds).outcomes = [] := by
  cases forwards <;> exact ⟨rfl, rfl⟩

theorem Forwards.account (forwards : Forwards o s.errorQueue failure c w p w' ds)
    (kept : c.aborted = false) {names : List String} {n : Tally} (partly : ¬n.Complete names)
    (sent : n.sent = (tally ds).sent) (copies : List (Operation × Failure))
    (refused : n.refused = copies ++ (tally ds).refused)
    (copy : ∀ r ∈ copies, r.1.IsDelayedCopy s) :
    Account s c.message.id names n w'.table p.delivery := by
  cases forwards with
  | sent op accepted told =>
    subst op
    rw [Passage.delivery_completed rfl kept]
    refine .sent sent (.inr ⟨rfl, rfl⟩) ?_ (by simp)
    rw [refused]
    simpa [Deed.tally] using copy
  | refused op dispatchRefused =>
    subst op
    exact .failed partly sent copy ⟨rfl, rfl⟩ refused

theorem Delivers.account (delivers : Delivers o handlers bound mode policy s.errorQueue c w p w' ds)
    (kept : c.aborted = false) (here : c.address = s.address) :
    Account s c.message.id ((allStages mode policy s.errorQueue bound handlers).map (·.name))
      (tally ds) w'.table p.delivery := by
  simp only [allStages, List.map_cons]
  cases delivers with
  | resumed later pending forwards =>
    refine forwards.account kept ?_ (by simp [Deed.tally]) [] (by simp [Deed.tally]) (by simp)
    have missing : (retryStages mode policy bound handlers).map (·.name) ≠ [] := by
      simp [retryStages]
    simp [Tally.Complete, Deed.tally, forwards.no_attempt.1, Ne.symm missing]
  | passed fresh delays fine =>
    have balance := (delays.balance kept here).entered ReceivePipeline.errorForwardName c.message.id
    cases balance with
    | handled fine kept complete idle unrefused forgotten =>
      rw [Passage.delivery_completed fine kept]
      exact .handled complete idle unrefused forgotten
    | deferred fine kept gone copy unrefused forgotten =>
      rw [Passage.delivery_completed fine kept]
      exact .sent gone (.inl copy) (forall_refused unrefused) forgotten
    | aborted fine aborted partly idle unrefused =>
      rw [Passage.delivery_aborted fine aborted]
      exact .aborted partly idle (forall_refused unrefused)
    | failed failed kept partly idle copies => cases failed.symm.trans fine
  | postponed later fresh delays failed =>
    have balance := (delays.balance kept here).entered ReceivePipeline.errorForwardName c.message.id
    cases balance with
    | handled fine kept complete idle unrefused forgotten => cases failed.symm.trans fine
    | deferred fine kept gone copy unrefused forgotten => cases failed.symm.trans fine
    | aborted fine aborted partly idle unrefused => cases failed.symm.trans fine
    | failed failed kept partly idle copies => exact .aborted partly idle copies
  | forwarded now delays failed forwards =>
    have balance := (delays.balance kept here).entered ReceivePipeline.errorForwardName c.message.id
    cases balance with
    | handled fine kept complete idle unrefused forgotten => cases failed.symm.trans fine
    | deferred fine kept gone copy unrefused forgotten => cases failed.symm.trans fine
    | aborted fine aborted partly idle unrefused => cases failed.symm.trans fine
    | failed failed kept partly idle copies =>
      have account := forwards.account kept
        (mt (complete_add forwards.no_attempt _).1 partly)
        (by rw [Tally.sent_add, idle, List.nil_append]) _ (Tally.refused_add _ _) copies
      rw [delays.keeps.1, ← tally_append] at account
      exact account

theorem Tries.alarmed (tries : Tries o handlers bound c w p w' ds) : (tally ds).Alarmed := by
  rw [Tally.Alarmed, tries.sends_nothing.2.1, tries.sends_nothing.2.2]
  rfl

theorem Tally.Alarmed.entered (alarmed : (tally ds).Alarmed) (stage id : String) :
    (tally (.entered stage id :: ds)).Alarmed := alarmed

theorem Delays.alarmed (delays : Delays o handlers bound mode c w policy p w' ds) :
    (tally ds).Alarmed := by
  cases delays with
  | absent tries => exact tries.alarmed.entered _ _
  | resumed later pending defers => exact defers.alarmed.entered _ _
  | passed fresh tries fine => exact (tries.alarmed.entered _ _).entered _ _
  | postponed later fresh tries failed retryable => exact (tries.alarmed.entered _ _).entered _ _
  | unreadable later fresh tries failed hopeless => exact (tries.alarmed.entered _ _).entered _ _
  | decided now tries failed defers =>
    rw [tally_append]
    exact ((tries.alarmed.entered _ _).entered _ _).add defers.alarmed

theorem Forwards.alarmed (forwards : Forwards o errorQueue failure c w p w' ds) :
    (tally ds).Alarmed := by
  cases forwards <;> rfl

theorem Delivers.alarmed (delivers : Delivers o handlers bound mode policy errorQueue c w p w' ds) :
    (tally ds).Alarmed := by
  cases delivers with
  | resumed later pending forwards => exact forwards.alarmed.entered _ _
  | passed fresh delays fine => exact delays.alarmed.entered _ _
  | postponed later fresh delays failed => exact delays.alarmed.entered _ _
  | forwarded now delays failed forwards =>
    rw [tally_append]
    exact (delays.alarmed.entered _ _).add forwards.alarmed

end parts

end Redelivery
