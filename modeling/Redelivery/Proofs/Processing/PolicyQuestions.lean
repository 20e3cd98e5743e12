import Redelivery.Proofs.Processing.SentAfterFailure

/-! What the policy of delayed retries is shown. Where a receive can be aborted it is asked on the
delivery after the failed one, and sees the message as it was received; else it is asked within the
failed delivery, and sees the message as the handlers left it. The bytes received are put back only
for the copy that a granted retry sends. -/
namespace Redelivery

def Deed.question? : Deed → Option (DelayPolicy × DelayQuestion × Option Duration)
  | .consulted policy q answer => some (policy, q, answer)
  | _ => none

/-- The questions among some deeds, with the policies they were put to and the answers. -/
def questions (ds : List Deed) : List (DelayPolicy × DelayQuestion × Option Duration) :=
  ds.filterMap Deed.question?

@[simp] theorem questions_append (a b : List Deed) :
    questions (a ++ b) = questions a ++ questions b := List.filterMap_append

@[simp] theorem questions_entered (stage messageId : String) (ds : List Deed) :
    questions (.entered stage messageId :: ds) = questions ds := rfl

theorem questions_acts (ds : List Deed) : questions (ds.filter Deed.isAct) = questions ds :=
  filterMap_acts (fun _ _ => rfl) ds

theorem mem_questions {ds : List Deed} {policy : DelayPolicy} {q : DelayQuestion}
    {answer : Option Duration} :
    (policy, q, answer) ∈ questions ds ↔ .consulted policy q answer ∈ ds := by
  rw [questions, List.mem_filterMap]
  constructor
  · rintro ⟨deed, member, asked⟩
    cases deed <;> cases asked
    exact member
  · exact fun member => ⟨_, member, rfl⟩

/-- What a policy is asked about in a delivery: the message at hand and a failure recorded before,
or the failed attempt of this delivery and what it left of the message. -/
inductive Asks {σ : Type} (o : Outside σ) (handlers : List (Nat × String)) (mode : DecisionMode)
    (m : Incoming) (w : World σ) : DelayQuestion → Prop where
  | later {failure : Failure} (later : mode = .onNextDelivery)
      (pending : w.table.pendingDelay m.id = some failure) :
      Asks o handlers mode m w (.about failure m)
  | now {r : Handled σ} {failure : Failure} (attempts : Nat) (now : mode = .atOnce)
      (handled : o.handleAll handlers m w.outside = r) (failed : r.verdict = .failed failure) :
      Asks o handlers mode m w (.about failure (r.message.retriedAtOnce attempts))

section ways
variable {σ : Type} {o : Outside σ} {handlers : List (Nat × String)} {bound : Nat}
  {mode : DecisionMode} {asked : DelayPolicy} {policy : Option DelayPolicy} {failure : Failure}
  {errorQueue : String} {c : Context} {w w' : World σ} {p : Passage} {ds : List Deed}
  {q : DelayQuestion} {answer : Option Duration}

theorem handleAll_questions (o : Outside σ) (handlers : List (Nat × String)) (m : Incoming)
    (st : σ) : questions (o.handleAll handlers m st).deeds = [] := by
  apply o.handleAll_induction (P := fun _ _ _ r => questions r.deeds = [])
  case empty => exact fun _ _ => rfl
  case done => exact fun _ _ _ _ _ _ _ ih => ih
  case failed => exact fun _ _ _ _ _ _ _ => rfl
  case panicked => exact fun _ _ _ _ _ _ _ => rfl

theorem handleAll_last_call {m : Incoming} {st : σ}
    (failed : (o.handleAll handlers m st).verdict = .failed failure) :
    ∃ calls slot name received handling cause,
      (o.handleAll handlers m st).deeds = calls ++ [.called slot name received handling] ∧
      handling.outcome = .failed cause ∧
      (o.handleAll handlers m st).message.body = handling.body := by
  have along := o.handleAll_induction
    (P := fun _ _ _ r => ∀ failure, r.verdict = .failed failure →
      ∃ calls slot name received handling cause,
        r.deeds = calls ++ [.called slot name received handling] ∧
        handling.outcome = .failed cause ∧ r.message.body = handling.body)
    ?empty ?done ?failed ?panicked handlers m st
  case empty =>
    intro m st failure failed
    cases failed
  case done =>
    intro slot name rest m st r outcome ih failure failed
    obtain ⟨calls, slot', name', received, handling, cause, deeds, last⟩ := ih failure failed
    refine ⟨.entered name m.id :: .called slot name m (o.handle slot m st).1 :: calls, slot', name',
      received, handling, cause, ?_, last⟩
    rw [Handled.after, deeds]
    rfl
  case failed =>
    intro slot name rest m st cause outcome failure failed
    exact ⟨[.entered name m.id], slot, name, m, _, cause, rfl, outcome, rfl⟩
  case panicked =>
    intro slot name rest m st text outcome failure failed
    cases failed
  exact along failure failed

def Outside.KeepsBodies (o : Outside σ) (handlers : List (Nat × String)) : Prop :=
  ∀ handler ∈ handlers, ∀ m st, (o.handle handler.1 m st).1.body = m.body

theorem handleAll_body (keeps : o.KeepsBodies handlers) (m : Incoming) (st : σ) :
    (o.handleAll handlers m st).message.body = m.body := by
  have along := o.handleAll_induction
    (P := fun handlers m _ r => o.KeepsBodies handlers → r.message.body = m.body)
    (fun _ _ _ => rfl) ?done ?failed ?panicked handlers m st
  case done =>
    intro slot name rest m st r _ ih keeps
    exact (ih fun h member => keeps h (List.mem_cons_of_mem _ member)).trans
      (keeps (slot, name) List.mem_cons_self m st)
  case failed =>
    intro slot name rest m st failure _ keeps
    exact keeps (slot, name) List.mem_cons_self m st
  case panicked =>
    intro slot name rest m st text _ keeps
    exact keeps (slot, name) List.mem_cons_self m st
  exact along keeps

theorem Tries.asks_nothing (tries : Tries o handlers bound c w p w' ds) : questions ds = [] := by
  have silent := handleAll_questions o handlers c.message w.outside
  cases tries with
  | succeeded handled done => exact handled ▸ silent
  | absorbed handled failed retryable left told =>
    subst handled
    rw [questions_append, silent]
    rfl
  | usedUp handled failed retryable spent => exact handled ▸ silent
  | unreadable handled failed hopeless => exact handled ▸ silent

theorem Forwards.asks_nothing (forwards : Forwards o errorQueue failure c w p w' ds) :
    questions ds = [] := by
  cases forwards <;> rfl

theorem Defers.question (defers : Defers o mode asked failure c w p w' ds) :
    questions ds = if failure.isRetryable then
      [(asked, .about failure c.message,
        (o.answerPolicy asked (.about failure c.message) w.outside).1)]
    else [] := by
  cases defers with
  | sent retryable granted left copy accepted told =>
    rw [if_pos retryable, granted]
    rfl
  | refused retryable granted left copy refused =>
    rw [if_pos retryable, granted]
    rfl
  | denied retryable denied left =>
    rw [if_pos retryable, denied]
    rfl
  | unasked hopeless => simp [hopeless, questions]

theorem Tries.failed (tries : Tries o handlers bound c w p w' ds)
    (failed : p.failure = some failure) (retryable : failure.isRetryable = true) :
    ∃ r, o.handleAll handlers c.message w.outside = r ∧ r.verdict = .failed failure ∧
      p.context.message = r.message.retriedAtOnce (w.table.attempts c.message.id) := by
  cases tries with
  | succeeded handled done => cases failed
  | absorbed handled verdict retryable left told => cases failed
  | usedUp handled verdict retryable spent =>
    cases failed
    exact ⟨_, handled, verdict, rfl⟩
  | unreadable handled verdict hopeless =>
    cases failed
    cases hopeless.symm.trans retryable

theorem Defers.asks {given : DelayPolicy} (defers : Defers o mode given failure c w p w' ds)
    (member : (asked, q, answer) ∈ questions ds) :
    failure.isRetryable = true ∧ asked = given ∧ q = .about failure c.message ∧
      answer = (o.answerPolicy asked q w.outside).1 := by
  rw [defers.question] at member
  split at member
  · rename_i retryable
    cases List.mem_singleton.1 member
    exact ⟨retryable, rfl, rfl, rfl⟩
  · cases member

theorem Delays.asks (delays : Delays o handlers bound mode c w policy p w' ds)
    (member : (asked, q, answer) ∈ questions ds) :
    policy = some asked ∧ Asks o handlers mode c.message w q ∧
      ∃ st, answer = (o.answerPolicy asked q st).1 := by
  have silent {p : Passage} {w' : World σ} {ds : List Deed}
      (tries : Tries o handlers bound c w p w' ds) :
      (asked, q, answer) ∉ questions (attemptDeeds c ds) := by
    rw [attemptDeeds, questions_entered, tries.asks_nothing]
    exact List.not_mem_nil
  cases delays with
  | absent tries => exact (silent tries member).elim
  | resumed later pending defers =>
    obtain ⟨-, rfl, rfl, answered⟩ := defers.asks member
    exact ⟨rfl, .later later pending, _, answered⟩
  | passed fresh tries fine => exact (silent tries member).elim
  | postponed later fresh tries failed retryable => exact (silent tries member).elim
  | unreadable later fresh tries failed hopeless => exact (silent tries member).elim
  | decided now tries failed defers =>
    rw [questions_append] at member
    have quiet := silent tries
    have late := (List.mem_append.1 member).resolve_left quiet
    obtain ⟨retryable, rfl, rfl, answered⟩ := defers.asks late
    obtain ⟨r, handled, verdict, left⟩ := tries.failed failed retryable
    rw [left] at answered ⊢
    exact ⟨rfl, .now _ now handled verdict, _, answered⟩

theorem Delivers.asks (delivers : Delivers o handlers bound mode policy errorQueue c w p w' ds)
    (member : (asked, q, answer) ∈ questions ds) :
    policy = some asked ∧ Asks o handlers mode c.message w q ∧
      ∃ st, answer = (o.answerPolicy asked q st).1 := by
  cases delivers with
  | resumed later pending forwards =>
    rw [questions_entered, forwards.asks_nothing] at member
    cases member
  | passed fresh delays fine => exact delays.asks member
  | postponed later fresh delays failed => exact delays.asks member
  | forwarded now delays failed forwards =>
    rw [questions_append, forwards.asks_nothing, List.append_nil] at member
    exact delays.asks member

end ways

namespace ReceivePipeline
variable {σ : Type} {o : Outside σ} {handlers : List (Nat × String)} {s : Settings}
  {given : Option DelayPolicy} {p : ReceivePipeline} {m : Incoming} {w : World σ}
  {asked : DelayPolicy} {q : DelayQuestion} {answer : Option Duration}

theorem invoke_asks (built : build s given (handlerStages handlers) = .ok p)
    (consulted : .consulted asked q answer ∈ ((p.invoke m).course o w).deeds) :
    policyOf s given = some asked ∧ Asks o handlers (modeOf s) m w q ∧
      ∃ st, answer = (o.answerPolicy asked q st).1 := by
  have member := mem_questions.2 consulted
  rcases delivers_or_panicked built o m w with ⟨passage, w', ds, delivers, course⟩ | panicked
  · rw [course] at member
    exact delivers.asks member
  · obtain ⟨text, w', ds, panic, course, acts⟩ := panicked
    rw [course, ← questions_acts, acts, questions_acts, handleAll_questions] at member
    cases member

/-- Every question of a processing is asked in one of its deliveries. -/
theorem processWithin_asks (built : build s given (handlerStages handlers) = .ok p)
    {allowed earlier : Nat}
    (consulted : .consulted asked q answer ∈
      ((p.processWithin m allowed earlier).course o w).deeds) :
    policyOf s given = some asked ∧
      (∃ before v, Leads o p m w before v ∧ Asks o handlers (modeOf s) m v q) ∧
      ∃ st, answer = (o.answerPolicy asked q st).1 := by
  rw [deeds_processWithin] at consulted
  obtain ⟨pass, member, here⟩ := List.mem_flatMap.1 consulted
  obtain ⟨before, after, split⟩ := List.append_of_mem member
  obtain ⟨v, left, leads, counted, rfl, rest⟩ := leads_of_passes split
  obtain ⟨chosen, asks, answered⟩ := invoke_asks built here
  exact ⟨chosen, ⟨before, v, leads, asks⟩, answered⟩

/-- A schedule is shown the message as received where a receive can be aborted. Else it is shown
what the failed attempt of the delivery left: the body is the one the failed handler left, and the
headers are those received with a number of immediate retries, if the handlers leave headers
alone. It is the body received only if the handlers leave the body alone as well. -/
theorem schedule_shown (built : build s given (handlerStages handlers) = .ok p)
    {schedule : Schedule} (chosen : policyOf s given = some (.ofMessage schedule))
    (consulted : .consulted asked q answer ∈ ((p.process m).course o w).deeds) :
    asked = .ofMessage schedule ∧
      answer = DelayPolicy.nonZero (schedule.delayFor q.message) ∧
      q.message.id = m.id ∧ q.message.originalBody = m.originalBody ∧
      match modeOf s with
      | .onNextDelivery => q.message = m
      | .atOnce => ∃ before v calls slot name received handling cause,
          Leads o p m w before v ∧
          (o.handleAll handlers m v.outside).deeds =
            calls ++ [.called slot name received handling] ∧
          handling.outcome = .failed cause ∧ q.message.body = handling.body ∧
          (o.KeepsHeaders handlers → ∃ attempts, q.message.headers =
            m.headers.insert Headers.immediateRetries (Whole.text attempts)) ∧
          (o.KeepsBodies handlers → q.message.body = m.body) := by
  obtain ⟨chosen', ⟨before, v, leads, asks⟩, st, answered⟩ := processWithin_asks built consulted
  cases chosen.symm.trans chosen'
  refine ⟨rfl, answered, ?_⟩
  cases asks with
  | later later pending => simp [later, DelayQuestion.about]
  | now attempts now handled failed =>
    subst handled
    obtain ⟨calls, slot, name, received, handling, cause, deeds, outcome, body⟩ :=
      handleAll_last_call failed
    simp only [now]
    refine ⟨handleAll_id o handlers m _, handleAll_originalBody o handlers m _, before, v, calls,
      slot, name, received, handling, cause, leads, deeds, outcome, body, fun keeps => ?headers,
      fun keeps => ?body⟩
    case headers => exact ⟨attempts, by rw [← handleAll_headers o handlers keeps m v.outside]; rfl⟩
    case body => exact handleAll_body keeps m v.outside

section emptied

def emptying : Cast where
  handlers := [{
    name := "OrderHandler"
    script := { after := { body := some [], failure := some Cast.declined } } }]
  clock := ⟨0, 0⟩

def emptiedSettings (mode : TransactionMode) : Settings :=
  { address := "sales", mode, immediateRetries := 0 }

def emptiedPipeline (mode : TransactionMode) : ReceivePipeline :=
  { stages := recoverability (emptiedSettings mode) (some (.ofMessage .byBodyLength)) ++
      handlerStages [(0, "OrderHandler")]
    address := "sales" }

def emptiedOrder : Incoming := .received "m1" .empty [111, 114, 105, 103, 105, 110, 97, 108]

def emptiedRun (mode : TransactionMode) : Course CastState Processed :=
  ((emptiedPipeline mode).process emptiedOrder).course emptying.outside ⟨.ofCapacity 1000, {}⟩

theorem emptied_built (mode : TransactionMode) :
    build (emptiedSettings mode) (some (.ofMessage .byBodyLength))
      (handlerStages [(0, "OrderHandler")]) = .ok (emptiedPipeline mode) :=
  build_ok (s := emptiedSettings mode) rfl (by cases mode <;> rfl) _ _

theorem emptying_keepsHeaders : emptying.outside.KeepsHeaders [(0, "OrderHandler")] := by
  intro handler member m s
  cases List.mem_singleton.1 member
  simp [Cast.outside, Cast.host, Cast.handle, emptying, ScriptedHandler.part, Script.act,
    Act.perform, Act.headers]

/-- Where a receive can be aborted, the schedule is shown the order as received. -/
theorem emptied_shown : ∃ asked q answer,
    .consulted asked q answer ∈ (emptiedRun .receiveOnly).deeds ∧
    q.message = emptiedOrder ∧ answer = some (.ofMillis 8) := by
  have first : ∃ asked q answer, .consulted asked q answer ∈ (emptiedRun .receiveOnly).deeds ∧
      answer = some (.ofMillis 8) := by
    refine ⟨_, _, _, mem_questions.1 (List.mem_singleton.2 rfl), rfl⟩
  obtain ⟨asked, q, answer, consulted, waits⟩ := first
  have shown := schedule_shown (emptied_built .receiveOnly) rfl consulted
  exact ⟨asked, q, answer, consulted, shown.2.2.2.2, waits⟩

def bodiesShown (ds : List Deed) : List (Bytes × Option Duration) :=
  (questions ds).map fun asked => (asked.2.1.message.body, asked.2.2)

/-- Else it is shown the emptied body, and what it decides is another thing. -/
theorem emptied_body_decides :
    (∀ mode, build (emptiedSettings mode) (some (.ofMessage .byBodyLength))
      (handlerStages [(0, "OrderHandler")]) = .ok (emptiedPipeline mode)) ∧
    emptying.outside.KeepsHeaders [(0, "OrderHandler")] ∧
    bodiesShown (emptiedRun .receiveOnly).deeds = [(emptiedOrder.body, some (.ofMillis 8))] ∧
    bodiesShown (emptiedRun .unprotected).deeds = [([], none)] :=
  ⟨emptied_built, emptying_keepsHeaders, rfl, rfl⟩

end emptied

end ReceivePipeline
end Redelivery
