import Redelivery.Proofs.Processing.SentOperations
import Redelivery.Proofs.Text.Numerals
import Redelivery.Proofs.Failure.Stamps

/-! The number of delayed retries on its way from one delivery to the next. The copy that is sent
back tells one more than the message it was made of, up to the largest number of 32 bits, and what
it tells is what its receiver reads. So the number counts the copies, however long the chain. -/
namespace Redelivery

def countedOn (n k : Nat) : Nat := min (n + k) Whole.max32

theorem Headers.retryCount_le (h : Headers) : h.retryCount ≤ Whole.max32 := by
  rcases (h.retryCount_eq_iff h.retryCount).1 rfl with ⟨_, _, _, within⟩ | ⟨none, _⟩
  · exact within
  · rw [none]
    exact Nat.zero_le _

theorem retryCount_delayedOperation (address : String) (m : Incoming) (delay : Duration)
    (time : Instant) :
    (delayedOperation address m delay time).message.headers.retryCount =
      countedOn m.headers.retryCount 1 := by
  have other : Headers.retries ≠ Headers.retriesTimestamp := by decide
  have written : (delayedOperation address m delay time).message.headers.get? Headers.retries =
      some (Whole.text m.headers.nextRetry) := by
    simp [delayedOperation, Stage.delayedCopy, Incoming.toOutgoing, Incoming.revert,
      Headers.get?_insertIfNew, other]
  have read := readRetries_text (Nat.min_le_right (m.headers.retryCount + 1) Whole.max32)
  rw [Headers.retryCount, written, Headers.nextRetry]
  simp only [read, countedOn]

section sending
variable {σ α β : Type} {o : Outside σ} {n : Nat} {ends : α → Prop} {ends' : β → Prop}

/-- All that was sent back with a delay tells a number of retries, and the end is as asked for. -/
structure Course.Tells (n : Nat) (ends : α → Prop) (x : Course σ α) : Prop where
  sent : ∀ op ∈ dispatches x.deeds, op.delays = [] ∨ op.message.headers.retryCount = n
  ended : ∀ a, x.ended = .done a → ends a

def Flow.Tells (o : Outside σ) (n : Nat) (ends : α → Prop) (x : Flow α) : Prop :=
  ∀ w, (x.course o w).Tells n ends

theorem Course.Tells.after {x : Course σ α} (tells : x.Tells n ends) {earlier : List Deed}
    (silent : dispatches earlier = []) : (x.after earlier).Tells n ends where
  sent op member := by
    rw [deeds_after, dispatches_append, silent] at member
    exact tells.sent op member
  ended := tells.ended

theorem tells_silent {x : Flow α} (silent : ∀ w, ∃ a w' ds, x.course o w = ⟨.done a, w', ds⟩ ∧
    dispatches ds = [] ∧ ends a) : x.Tells o n ends := by
  intro w
  obtain ⟨a, w', ds, course, unsent, ended⟩ := silent w
  rw [course]
  refine ⟨fun op sent => ?_, fun b same => ?_⟩
  · rw [unsent] at sent
    cases sent
  · cases same
    exact ended

theorem tells_pure {a : α} (ended : ends a) : (pure a : Flow α).Tells o n ends :=
  tells_silent fun w => ⟨a, w, [], rfl, rfl, ended⟩

theorem tells_lookup (id : String) : (Flow.lookup id).Tells o n fun _ => True :=
  tells_silent fun w => ⟨w.table.lookup id, w, [], rfl, rfl, trivial⟩

theorem tells_log (entry : LogEntry) : (Flow.log entry).Tells o n fun _ => True :=
  tells_silent fun w => ⟨(), w, [], rfl, rfl, trivial⟩

theorem tells_bind {x : Flow α} {f : α → Flow β} (first : x.Tells o n ends)
    (later : ∀ a, ends a → (f a).Tells o n ends') : (x >>= f).Tells o n ends' := by
  intro w
  have early := first w
  rw [Flow.course_bind]
  generalize x.course o w = course at early ⊢
  obtain ⟨how, w', ds⟩ := course
  cases how with
  | panicked text => exact ⟨early.sent, fun b same => nomatch same⟩
  | done a =>
    have late := later a (early.ended a rfl) w'
    refine ⟨fun op sent => ?_, late.ended⟩
    rw [Course.deeds_after, dispatches_append] at sent
    exact (List.mem_append.1 sent).elim (early.sent op) (late.sent op)

end sending

section stages
variable {σ : Type} {o : Outside σ} {mode : DecisionMode} {policy : DelayPolicy} {n : Nat}
  {rest : Way} {c : Context}

def Passage.Recounts (mode : DecisionMode) (n : Nat) (p : Passage) : Prop :=
  mode = .atOnce → p.context.message.headers.retryCount = n

/-- Own stages that send nothing, and leave the number of retries alone where a failure is decided
about at once. -/
structure Outside.Spares (o : Outside σ) (mode : DecisionMode) (own : List Stage) : Prop where
  idle : ∀ c w, dispatches ((runStages own c).deeds o w) = []
  kept : mode = .atOnce → ∀ c w p, ((runStages own c).course o w).ended = .done p →
    p.context.message.headers.retryCount = c.message.headers.retryCount

theorem Outside.Spares.tells {own : List Stage} (spares : o.Spares mode own) (c : Context)
    (n : Nat) : (runStages own c).Tells o n
      (Passage.Recounts mode c.message.headers.retryCount) := by
  intro w
  refine ⟨fun op sent => ?_, fun p ended now => spares.kept now c w p ended⟩
  have idle : dispatches ((runStages own c).course o w).deeds = [] := spares.idle c w
  rw [idle] at sent
  cases sent

theorem HandlerOutcome.context_of_ending {verdict : HandlerOutcome} {p : Passage}
    (ended : verdict.ending c = .done p) : p.context = c := by
  cases verdict with
  | panicked text => cases ended
  | _ =>
    cases ended
    rfl

theorem spares_handlers {handlers : List (Nat × String)}
    (keeps : mode = .atOnce → o.KeepsHeaders handlers) :
    o.Spares mode (handlerStages handlers) where
  idle c w := by
    have calls : (runStages (handlerStages handlers) c).deeds o w =
        (o.handleAll handlers c.message w.outside).deeds :=
      congrArg Course.deeds (course_handlers o handlers c w)
    rw [calls]
    exact dispatches_of_stays (handleAll_stays o handlers c.message w.outside)
  kept now c w p ended := by
    rw [course_handlers] at ended
    rw [HandlerOutcome.context_of_ending ended]
    exact congrArg Headers.retryCount (handleAll_headers o handlers (keeps now) c.message w.outside)

theorem retryCount_insert (h : Headers) {key value : String} (other : key ≠ Headers.retries) :
    (h.insert key value).retryCount = h.retryCount := by
  rw [Headers.retryCount, Headers.get?_insert, if_neg other.symm, Headers.retryCount]

theorem tells_immediateRetries (bound : Nat)
    (tells : (rest c).Tells o n (Passage.Recounts mode c.message.headers.retryCount)) :
    (Stage.immediateRetries bound rest c).Tells o n
      (Passage.Recounts mode c.message.headers.retryCount) := by
  refine tells_bind (tells_lookup c.message.id) fun known _ => tells_bind tells fun p recounts => ?_
  cases p.failure with
  | none => exact tells_silent fun w => ⟨p, _, [], rfl, rfl, recounts⟩
  | some failure =>
    simp only
    split
    · split
      · refine tells_silent fun w => ⟨_, _, [], rfl, rfl, fun now => ?_⟩
        exact (retryCount_insert _ (by decide)).trans (recounts now)
      · exact tells_silent fun w => ⟨_, _, [.notified _], rfl, rfl, recounts⟩
    · exact tells_pure recounts

theorem dispatches_decide (o : Outside σ) (mode : DecisionMode) (policy : DelayPolicy)
    (failure : Failure) (c : Context) (w : World σ) :
    ∀ op ∈ dispatches ((mode.decide policy failure c).deeds o w), ∃ delay time,
      op = delayedOperation c.address c.message delay time := by
  intro op sent
  obtain ⟨p, w', ds, defers⟩ := exists_defers o mode policy failure c w
  have deeds : (mode.decide policy failure c).deeds o w = ds :=
    congrArg Course.deeds defers.course
  rw [deeds] at sent
  cases defers with
  | sent retryable granted left copy accepted told =>
    exact ⟨_, _, (List.mem_singleton.1 sent).trans copy⟩
  | refused retryable granted left copy refused =>
    exact ⟨_, _, (List.mem_singleton.1 sent).trans copy⟩
  | denied retryable denied left => cases sent
  | unasked hopeless => cases sent

theorem tells_decide (o : Outside σ) (mode : DecisionMode) (policy : DelayPolicy)
    (failure : Failure) (c : Context) :
    (mode.decide policy failure c).Tells o (countedOn c.message.headers.retryCount 1)
      fun _ => True := by
  refine fun w => ⟨fun op sent => .inr ?_, fun _ _ => trivial⟩
  obtain ⟨delay, time, rfl⟩ := dispatches_decide o mode policy failure c w op sent
  exact retryCount_delayedOperation _ _ _ _

theorem tells_delayedRetries (policy : DelayPolicy)
    (tells : (rest c).Tells o (countedOn c.message.headers.retryCount 1)
      (Passage.Recounts mode c.message.headers.retryCount)) :
    (Stage.delayedRetries mode policy rest c).Tells o
      (countedOn c.message.headers.retryCount 1) fun _ => True := by
  cases mode with
  | atOnce =>
    refine tells_bind tells fun p recounts => ?_
    cases p.failure with
    | none => exact tells_pure trivial
    | some failure =>
      have decided := tells_decide o .atOnce policy failure p.context
      rwa [recounts rfl] at decided
  | onNextDelivery =>
    refine tells_bind (tells_lookup c.message.id) fun known _ => ?_
    split
    · exact tells_decide o .onNextDelivery policy _ c
    · refine tells_bind tells fun p _ => ?_
      cases p.failure with
      | none => exact tells_pure trivial
      | some failure =>
        simp only
        split
        · exact tells_silent fun w => ⟨_, _, [], rfl, rfl, trivial⟩
        · exact tells_silent fun w =>
            ⟨_, w, [], course_delayedRetriesUsedUp failure p.context w, rfl, trivial⟩

theorem tells_forwardToErrorQueue (errorQueue : String) (failure : Failure) (c : Context) :
    (Stage.forwardToErrorQueue errorQueue failure c).Tells o n fun _ => True := by
  refine fun w => ⟨fun op sent => .inl ?_, fun _ _ => trivial⟩
  have sole : dispatches ((Stage.forwardToErrorQueue errorQueue failure c).course o w).deeds =
      [faultedOperation errorQueue c.address c.message failure (o.now w.outside)] :=
    dispatches_forwardToErrorQueue o errorQueue failure c w
  rw [sole] at sent
  rw [List.mem_singleton.1 sent]
  rfl

theorem tells_errorForward (errorQueue : String) (tells : (rest c).Tells o n fun _ => True) :
    (Stage.errorForward mode errorQueue rest c).Tells o n fun _ => True := by
  cases mode with
  | atOnce =>
    refine tells_bind tells fun p _ => ?_
    cases p.failure with
    | none => exact tells_pure trivial
    | some failure => exact tells_forwardToErrorQueue errorQueue failure p.context
  | onNextDelivery =>
    refine tells_bind (tells_lookup c.message.id) fun known _ => ?_
    split
    · exact tells_forwardToErrorQueue errorQueue _ c
    · refine tells_bind tells fun p _ => ?_
      cases p.failure with
      | none => exact tells_pure trivial
      | some failure => exact tells_silent fun w => ⟨_, _, [], rfl, rfl, trivial⟩

theorem tells_runStages {stage : Stage} {stages : List Stage} {ends : Passage → Prop}
    (tells : (stage.behaviour (runStages stages) c).Tells o n ends) :
    (runStages (stage :: stages) c).Tells o n ends := by
  intro w
  rw [course_runStages]
  exact (tells w).after rfl

end stages

section copies
variable {σ : Type} {o : Outside σ} {link : Incoming → Incoming → Prop}

def Outside.SendsBack (o : Outside σ) (m copy : Incoming) : Prop :=
  ∃ (mode : DecisionMode) (policy : DelayPolicy) (failure : Failure) (c : Context) (w : World σ)
    (op : Operation), c.message = m ∧ op ∈ dispatches ((mode.decide policy failure c).deeds o w) ∧
      op.message.toIncoming = copy

inductive Descends (link : Incoming → Incoming → Prop) (first : Incoming) :
    Nat → Incoming → Prop where
  | self : Descends link first 0 first
  | copied {k : Nat} {last copy : Incoming} (before : Descends link first k last)
      (made : link last copy) : Descends link first (k + 1) copy

/-- The number of delayed retries grows by one with each link, up to the largest number. -/
def CountsCopies (link : Incoming → Incoming → Prop) : Prop :=
  ∀ (first middle last : Incoming) (j k : Nat), Descends link first j middle →
    Descends link middle k last →
    last.headers.retryCount = min (first.headers.retryCount + (j + k)) Whole.max32 ∧
    middle.headers.retryCount ≤ last.headers.retryCount ∧
    (0 < k → middle.headers.retryCount < Whole.max32 →
      middle.headers.retryCount < last.headers.retryCount)

theorem retryCount_sendsBack {m copy : Incoming} (sends : o.SendsBack m copy) :
    copy.headers.retryCount = countedOn m.headers.retryCount 1 := by
  obtain ⟨mode, policy, failure, c, w, op, rfl, sent, rfl⟩ := sends
  obtain ⟨delay, time, rfl⟩ := dispatches_decide o mode policy failure c w op sent
  exact retryCount_delayedOperation c.address c.message delay time

section counting
variable (each : ∀ m copy, link m copy →
  copy.headers.retryCount = countedOn m.headers.retryCount 1)
include each

theorem Descends.retryCount {first last : Incoming} {k : Nat}
    (descends : Descends link first k last) :
    last.headers.retryCount = countedOn first.headers.retryCount k := by
  induction descends with
  | self => exact (Nat.min_eq_left first.headers.retryCount_le).symm
  | copied before made ih =>
    rw [each _ _ made, ih]
    simp only [countedOn]
    omega

theorem countsCopies : CountsCopies link := by
  intro first middle last j k early late
  have before := early.retryCount each
  have after := late.retryCount each
  have most := middle.headers.retryCount_le
  simp only [countedOn] at before after
  refine ⟨?_, ?_, fun further room => ?_⟩
  · rw [after, before]
    omega
  · rw [after]
    omega
  · rw [after]
    omega

end counting
end copies

namespace ReceivePipeline
variable {σ : Type} {o : Outside σ} {s : Settings} {given : Option DelayPolicy}
  {own : List Stage} {p : ReceivePipeline}

theorem tells_invoke (built : build s given own = .ok p) (spares : o.Spares (modeOf s) own)
    (m : Incoming) :
    (p.invoke m).Tells o (countedOn m.headers.retryCount 1) fun _ => True := by
  have retried : (runStages
      (⟨immediateRetriesName, Stage.immediateRetries s.immediateRetries.toNat⟩ :: own)
      (p.entry m)).Tells o (countedOn m.headers.retryCount 1)
      (Passage.Recounts (modeOf s) m.headers.retryCount) :=
    tells_runStages (tells_immediateRetries _ (spares.tells (p.entry m) _))
  have delayed : (runStages (((policyOf s given).map fun policy =>
      ⟨delayedRetriesName, Stage.delayedRetries (modeOf s) policy⟩).toList ++
      ⟨immediateRetriesName, Stage.immediateRetries s.immediateRetries.toNat⟩ :: own)
      (p.entry m)).Tells o (countedOn m.headers.retryCount 1) fun _ => True := by
    cases policyOf s given with
    | none => exact fun w => ⟨(retried w).sent, fun _ _ => trivial⟩
    | some policy => exact tells_runStages (tells_delayedRetries (c := p.entry m) policy retried)
  have whole : (runStages p.stages (p.entry m)).Tells o (countedOn m.headers.retryCount 1)
      fun _ => True := by
    rw [build_eq built] at delayed ⊢
    simp only [recoverability, List.append_assoc, List.cons_append, List.nil_append]
    exact tells_runStages (tells_errorForward s.errorQueue delayed)
  refine tells_bind whole fun passage _ => ?_
  cases passage.failure <;> exact tells_pure trivial

theorem tells_processWithin (built : build s given own = .ok p)
    (spares : o.Spares (modeOf s) own) (m : Incoming) (allowed earlier : Nat) :
    (p.processWithin m allowed earlier).Tells o (countedOn m.headers.retryCount 1)
      fun _ => True := by
  induction allowed generalizing earlier with
  | zero => exact fun w => ⟨fun op sent => absurd sent List.not_mem_nil, fun _ _ => trivial⟩
  | succ allowed ih =>
    refine tells_bind (tells_invoke built spares m) fun delivery _ => ?_
    cases delivery with
    | completed => exact tells_pure trivial
    | failed failure => exact tells_pure trivial
    | aborted =>
      exact tells_bind (tells_log (redeliveryEntry m.id (earlier + 1))) fun _ _ =>
        ih (earlier + 1)

def ComesBack (o : Outside σ) (p : ReceivePipeline) (m copy : Incoming) : Prop :=
  ∃ allowed w op, op ∈ dispatches ((p.processWithin m allowed 0).deeds o w) ∧ op.delays ≠ [] ∧
    op.message.toIncoming = copy

theorem retryCount_comesBack (built : build s given own = .ok p) (spares : o.Spares (modeOf s) own)
    {m copy : Incoming} (back : ComesBack o p m copy) :
    copy.headers.retryCount = countedOn m.headers.retryCount 1 := by
  obtain ⟨allowed, w, op, sent, delayed, rfl⟩ := back
  exact ((tells_processWithin built spares m allowed 0 w).sent op sent).resolve_left delayed

/-- A number of delayed retries is read off white space, a plus sign and digits alone, as far as 32
bits go, and is none for any other text. Every copy that a decision sends reads as one more than
the message decided about, up to the largest number; so a message that came back some times over
reads as that many more, and each time as more, until that largest number is reached. So it does
along whole processings, if the own stages leave the number alone. -/
theorem retries_counted (o : Outside σ) :
    (∀ (h : Headers) (n : Nat),
      h.retryCount = n ↔ h.TellsRetries n ∨ n = 0 ∧ ∀ k, ¬h.TellsRetries k) ∧
    (∀ (mode : DecisionMode) (policy : DelayPolicy) (failure : Failure) (c : Context)
        (w : World σ), ∀ op ∈ dispatches ((mode.decide policy failure c).deeds o w),
      op.message.toIncoming.headers.retryCount =
        min (c.message.headers.retryCount + 1) Whole.max32) ∧
    CountsCopies o.SendsBack ∧
    ∀ (s : Settings) (given : Option DelayPolicy) (own : List Stage) (p : ReceivePipeline),
      build s given own = .ok p → o.Spares (modeOf s) own → CountsCopies (ComesBack o p) := by
  refine ⟨Headers.retryCount_eq_iff, fun mode policy failure c w op sent => ?copy, ?decided,
    fun s given own p built spares => ?processed⟩
  case copy => exact retryCount_sendsBack ⟨mode, policy, failure, c, w, op, rfl, sent, rfl⟩
  case decided => exact countsCopies fun _ _ => retryCount_sendsBack
  case processed => exact countsCopies fun _ _ => retryCount_comesBack built spares

theorem prompt_counted :
    (Headers.empty.insert Headers.retries "\t+007 ").retryCount = 7 ∧
    ∃ copy, ComesBack Cast.stumbling.outside promptPipeline default copy ∧
      copy.headers.retryCount = 1 ∧
      (default : Incoming).headers.retryCount < copy.headers.retryCount := by
  obtain ⟨read, -, -, counts⟩ := retries_counted Cast.stumbling.outside
  have spelled : Whole.Spells ['+', '0', '0', '7'] 7 :=
    .plus ⟨by decide, by simp [Whole.isDigit], rfl⟩
  have around : Text.Surrounds ['+', '0', '0', '7'] "\t+007 ".toList :=
    ⟨['\t'], [' '], rfl, by simp [Text.isBlank], by simp [Text.isBlank]⟩
  have seven : (Headers.empty.insert Headers.retries "\t+007 ").TellsRetries 7 :=
    ⟨"\t+007 ", by simp, ⟨_, around, spelled⟩, by decide⟩
  have built : build prompt none (handlerStages [(0, "Billing")]) = .ok promptPipeline :=
    build_ok (s := prompt) rfl rfl none (handlerStages [(0, "Billing")])
  have spares : Cast.stumbling.outside.Spares (modeOf prompt) (handlerStages [(0, "Billing")]) :=
    spares_handlers fun _ => Cast.stumbling_keepsHeaders
  have sent : ∃ op rest, dispatches ((promptPipeline.processWithin default 3 0).deeds
      Cast.stumbling.outside ⟨.ofCapacity 1000, {}⟩) = op :: rest ∧ op.delays ≠ [] :=
    ⟨_, _, rfl, List.cons_ne_nil _ _⟩
  obtain ⟨op, rest, sent, delayed⟩ := sent
  have back : ComesBack Cast.stumbling.outside promptPipeline default op.message.toIncoming :=
    ⟨3, _, op, sent ▸ List.mem_cons_self, delayed, rfl⟩
  have counted := counts prompt none _ _ built spares default default _ 0 1 .self
    (.copied .self back)
  exact ⟨(read _ 7).2 (.inl seven), _, back, counted.1, counted.2.2 Nat.zero_lt_one (by decide)⟩

end ReceivePipeline
end Redelivery
