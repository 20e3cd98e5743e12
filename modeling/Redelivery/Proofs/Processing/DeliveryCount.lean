import Redelivery.Proofs.FailureTable.StageChanges
import Redelivery.Proofs.Processing.SentAfterFailure

/-! How many deliveries the processing of a message takes. What stands in the record of a message
says what its next delivery is about: one more attempt, a delayed retry or the error queue. A
delivery that is aborted moves the message on in this order, so that the bound of immediate retries
and the postponed decisions are all that a processing can wait for. -/
namespace Redelivery

/-- What the next delivery of a message is about: an attempt, with some failures recorded before
it, or a decision that was left to it. -/
inductive Standing where
  | trying (failures : Nat)
  | delaying
  | forwarding

/-- The deliveries from the attempt that has no immediate retry left to the end. -/
def DecisionMode.closing (mode : DecisionMode) (policy : Option DelayPolicy) : Nat :=
  match mode, policy with
  | .atOnce, _ => 1
  | .onNextDelivery, none => 2
  | .onNextDelivery, some _ => 3

def Standing.deliveriesLeft (bound closing : Nat) : Standing → Nat
  | .trying failures => bound - failures + closing
  | .delaying => 2
  | .forwarding => 1

namespace FailureTable
variable {mode : DecisionMode} {policy : Option DelayPolicy} {t : FailureTable} {id : String}

def standing (t : FailureTable) (mode : DecisionMode) (policy : Option DelayPolicy)
    (id : String) : Standing :=
  if mode = .onNextDelivery ∧ (t.pendingForward id).isSome then .forwarding
  else if mode = .onNextDelivery ∧ policy.isSome ∧ (t.pendingDelay id).isSome then .delaying
  else .trying (t.attempts id)

theorem standing_trying (unforwarded : mode = .onNextDelivery → t.pendingForward id = none)
    (undelayed : mode = .onNextDelivery → policy = none ∨ t.pendingDelay id = none) :
    t.standing mode policy id = .trying (t.attempts id) := by
  rw [standing]
  cases mode with
  | atOnce => simp
  | onNextDelivery =>
    rw [unforwarded rfl]
    rcases undelayed rfl with none | none <;> simp [none]

theorem standing_delaying {asked : DelayPolicy} {failure : Failure}
    (unforwarded : t.pendingForward id = none) (pending : t.pendingDelay id = some failure) :
    t.standing .onNextDelivery (some asked) id = .delaying := by
  simp [standing, unforwarded, pending]

theorem standing_forwarding {failure : Failure} (pending : t.pendingForward id = some failure) :
    t.standing .onNextDelivery policy id = .forwarding := by
  simp [standing, pending]

theorem standing_unrecorded (mode : DecisionMode) (policy : Option DelayPolicy)
    (unrecorded : t.lookup id = none) : t.standing mode policy id = .trying 0 := by
  have attempts : t.attempts id = 0 := by simp [FailureTable.attempts, unrecorded]
  rw [standing_trying (fun _ => by simp [pendingForward, unrecorded])
    (fun _ => .inr (by simp [pendingDelay, unrecorded])), attempts]

/-- Whatever is recorded, no more deliveries are left than the failures so far allow. -/
theorem deliveriesLeft_standing (t : FailureTable) (mode : DecisionMode)
    (policy : Option DelayPolicy) (bound : Nat) (id : String) :
    (t.standing mode policy id).deliveriesLeft bound (mode.closing policy) ≤
      bound - t.attempts id + mode.closing policy := by
  rw [standing]
  split
  case isTrue decided =>
    obtain ⟨rfl, -⟩ := decided
    cases policy <;> simp only [Standing.deliveriesLeft, DecisionMode.closing] <;> omega
  case isFalse =>
    split
    case isTrue decided =>
      obtain ⟨rfl, installed, -⟩ := decided
      obtain ⟨asked, rfl⟩ := Option.isSome_iff_exists.1 installed
      simp only [Standing.deliveriesLeft, DecisionMode.closing]
      omega
    case isFalse => exact Nat.le_refl _

end FailureTable

theorem Standing.deliveriesLeft_pos (bound : Nat) (mode : DecisionMode)
    (policy : Option DelayPolicy) (here : Standing) :
    0 < here.deliveriesLeft bound (mode.closing policy) := by
  cases here with
  | trying failures =>
    have closing : 0 < mode.closing policy := by
      cases mode <;> cases policy <;> exact Nat.succ_pos _
    exact Nat.add_pos_right _ closing
  | delaying => exact Nat.two_pos
  | forwarding => exact Nat.one_pos

def attemptedIn (ds : List Deed) : Bool :=
  (tally ds).entered.contains ReceivePipeline.immediateRetriesName

/-- One delivery, from where it finds the message to where it leaves it. What a delivery leaves
that was the last one is left open. -/
inductive Leg (s : Settings) (bound : Nat) (mode : DecisionMode) (policy : Option DelayPolicy)
    (ds : List Deed) : Standing → Delivery → Standing → Prop where
  | retried {n : Nat} (attempted : attemptedIn ds = true) (left : n < bound) :
      Leg s bound mode policy ds (.trying n) .aborted (.trying (n + 1))
  | deferred {n : Nat} (later : mode = .onNextDelivery) (installed : policy.isSome = true)
      (spent : bound ≤ n) : Leg s bound mode policy ds (.trying n) .aborted .delaying
  | condemned {n : Nat} {cause : Failure} (later : mode = .onNextDelivery)
      (last : lastFailure ds = some cause)
      (hopeless : policy.isSome = true → cause.isRetryable = false) :
      Leg s bound mode policy ds (.trying n) .aborted .forwarding
  | undelayed (later : mode = .onNextDelivery) (silent : lastFailure ds = none) :
      Leg s bound mode policy ds .delaying .aborted .forwarding
  | handled {n : Nat} {next : Standing} (attempted : attemptedIn ds = true)
      (idle : (tally ds).sent = []) : Leg s bound mode policy ds (.trying n) .completed next
  | copiedNow {n : Nat} {next : Standing} {op : Operation} (now : mode = .atOnce)
      (spent : bound ≤ n) (sent : (tally ds).sent = [op]) (copy : op.IsDelayedCopy s) :
      Leg s bound mode policy ds (.trying n) .completed next
  | copiedLater {next : Standing} {op : Operation} (later : mode = .onNextDelivery)
      (unattempted : attemptedIn ds = false) (sent : (tally ds).sent = [op])
      (copy : op.IsDelayedCopy s) : Leg s bound mode policy ds .delaying .completed next
  | forwardedNow {n : Nat} {next : Standing} {cause : Failure} {op : Operation}
      (now : mode = .atOnce) (last : lastFailure ds = some cause)
      (spent : cause.isRetryable = true → bound ≤ n) (sent : (tally ds).sent = [op])
      (forward : op.IsForward s) : Leg s bound mode policy ds (.trying n) .completed next
  | forwardedLater {next : Standing} {op : Operation} (later : mode = .onNextDelivery)
      (unattempted : attemptedIn ds = false) (silent : lastFailure ds = none)
      (sent : (tally ds).sent = [op]) (forward : op.IsForward s) :
      Leg s bound mode policy ds .forwarding .completed next
  | failed {here next : Standing} (failure : Failure) :
      Leg s bound mode policy ds here (.failed failure) next

section legs
variable {σ : Type} {o : Outside σ} {handlers : List (Nat × String)} {bound : Nat}
  {mode : DecisionMode} {policy : Option DelayPolicy} {asked : DelayPolicy} {s : Settings}
  {failure : Failure} {c : Context} {w w' : World σ} {p : Passage} {ds : List Deed}
  {here next : Standing} {d : Delivery}

theorem Leg.fewer (leg : Leg s bound mode policy ds here .aborted next) :
    next.deliveriesLeft bound (mode.closing policy) + 1 ≤
      here.deliveriesLeft bound (mode.closing policy) := by
  cases leg with
  | retried attempted left =>
    simp only [Standing.deliveriesLeft]
    omega
  | deferred later installed spent =>
    obtain ⟨asked, rfl⟩ := Option.isSome_iff_exists.1 installed
    subst later
    simp only [Standing.deliveriesLeft, DecisionMode.closing]
    omega
  | condemned later last hopeless =>
    subst later
    cases policy <;> simp only [Standing.deliveriesLeft, DecisionMode.closing] <;> omega
  | undelayed later silent => exact Nat.le_refl 2

theorem Leg.tried (leg : Leg s bound mode policy ds here .completed next)
    (attempted : attemptedIn ds = true) : ∃ n, here = .trying n := by
  cases leg with
  | handled => exact ⟨_, rfl⟩
  | copiedNow => exact ⟨_, rfl⟩
  | copiedLater later unattempted => cases attempted.symm.trans unattempted
  | forwardedNow => exact ⟨_, rfl⟩
  | forwardedLater later unattempted => cases attempted.symm.trans unattempted

theorem lastFailure_entered (stage id : String) (ds : List Deed) :
    lastFailure (.entered stage id :: ds) = lastFailure ds := rfl

theorem lastFailure_attemptDeeds (c : Context) (ds : List Deed) :
    lastFailure (attemptDeeds c ds) = lastFailure ds := rfl

theorem attemptedIn_entered {stage : String}
    (other : stage ≠ ReceivePipeline.immediateRetriesName) (id : String) (ds : List Deed) :
    attemptedIn (.entered stage id :: ds) = attemptedIn ds := by
  simp [attemptedIn, Deed.tally, Ne.symm other]

theorem attemptedIn_attemptDeeds (c : Context) (ds : List Deed) :
    attemptedIn (attemptDeeds c ds) = true := by
  simp [attemptedIn, attemptDeeds, Deed.tally]

theorem Tries.exhausted (tries : Tries o handlers bound c w p w' ds)
    (failed : p.failure = some failure) :
    ∃ cause, lastFailure ds = some cause ∧ cause.isRetryable = failure.isRetryable ∧
      (failure.isRetryable = true → bound ≤ w.table.attempts c.message.id) := by
  cases tries with
  | succeeded handled done => cases failed
  | absorbed handled verdict retryable left told => cases failed
  | usedUp handled verdict retryable spent =>
    cases failed
    subst handled
    obtain ⟨cause, name, last, rfl⟩ := handleAll_lastFailure verdict
    exact ⟨cause, last, (isRetryable_claimedBy cause name).symm, fun _ => spent⟩
  | unreadable handled verdict hopeless =>
    cases failed
    subst handled
    obtain ⟨cause, name, last, rfl⟩ := handleAll_lastFailure verdict
    refine ⟨cause, last, (isRetryable_claimedBy cause name).symm, fun retryable => ?_⟩
    cases hopeless.symm.trans retryable

theorem Defers.silent (defers : Defers o mode asked failure c w p w' ds) :
    lastFailure ds = none ∧ attemptedIn ds = false := by
  cases defers <;> exact ⟨rfl, rfl⟩

theorem Forwards.silent {errorQueue : String}
    (forwards : Forwards o errorQueue failure c w p w' ds) :
    lastFailure ds = none ∧ attemptedIn ds = false := by
  cases forwards <;> exact ⟨rfl, rfl⟩

theorem Defers.copied (defers : Defers o mode asked failure c w p w' ds)
    (fine : p.failure = none) (here : c.address = s.address) :
    failure.isRetryable = true ∧ ∃ op, (tally ds).sent = [op] ∧ op.IsDelayedCopy s := by
  cases defers with
  | sent retryable granted left copy accepted told =>
    subst copy
    exact ⟨retryable, _, rfl, here, _, rfl⟩
  | refused retryable granted left copy refused => cases fine
  | denied retryable denied left => cases fine
  | unasked hopeless => cases fine

theorem Tries.leg (tries : Tries o handlers bound c w p w' ds) (kept : c.aborted = false)
    (fine : p.failure = none)
    (unforwarded : mode = .onNextDelivery → w.table.pendingForward c.message.id = none)
    (undelayed : mode = .onNextDelivery →
      policy = none ∨ w.table.pendingDelay c.message.id = none)
    {all : List Deed} (attempted : attemptedIn all = true)
    (same : (tally all).sent = (tally ds).sent) :
    Leg s bound mode policy all (w.table.standing mode policy c.message.id) p.delivery
      (w'.table.standing mode policy c.message.id) := by
  rw [FailureTable.standing_trying unforwarded undelayed]
  cases again : p.context.aborted with
  | false =>
    rw [Passage.delivery_completed fine again]
    exact .handled attempted (same.trans tries.sends_nothing.1)
  | true =>
    rw [Passage.delivery_aborted fine again]
    obtain ⟨failure, left, recorded⟩ := tries.attempts kept again
    rw [recorded, FailureTable.standing_trying
      (fun _ => FailureTable.pendingForward_record_self _ _ failure false false)
      (fun _ => .inr (FailureTable.pendingDelay_record_self _ _ failure false false)),
      FailureTable.attempts_record_self]
    exact .retried attempted left

theorem Delays.leg (delays : Delays o handlers bound mode c w policy p w' ds)
    (kept : c.aborted = false) (home : c.address = s.address) (fine : p.failure = none)
    (unforwarded : mode = .onNextDelivery → w.table.pendingForward c.message.id = none)
    (stage id : String) (other : stage ≠ ReceivePipeline.immediateRetriesName) :
    Leg s bound mode policy (.entered stage id :: ds)
      (w.table.standing mode policy c.message.id) p.delivery
      (w'.table.standing mode policy c.message.id) := by
  have between : ReceivePipeline.delayedRetriesName ≠ ReceivePipeline.immediateRetriesName := by
    decide
  cases delays with
  | absent tries =>
    refine tries.leg kept fine unforwarded (fun _ => .inl rfl) ?_ ?_
    · rw [attemptedIn_entered other, attemptedIn_attemptDeeds]
    · simp [attemptDeeds, Deed.tally]
  | resumed later pending defers =>
    subst later
    obtain ⟨-, op, sent, copy⟩ := defers.copied fine home
    rw [FailureTable.standing_delaying (unforwarded rfl) pending,
      Passage.delivery_completed fine (defers.aborted.trans kept)]
    refine .copiedLater rfl ?_ (by simpa [Deed.tally] using sent) copy
    rw [attemptedIn_entered other, attemptedIn_entered between, defers.silent.2]
  | passed fresh tries _ =>
    refine tries.leg kept fine unforwarded (fun later => .inr (fresh later)) ?_ ?_
    · rw [attemptedIn_entered other, attemptedIn_entered between, attemptedIn_attemptDeeds]
    · simp [attemptDeeds, Deed.tally]
  | postponed later fresh tries failed retryable =>
    subst later
    obtain ⟨cause, last, same, spent⟩ := tries.exhausted failed
    rw [FailureTable.standing_trying unforwarded (fun _ => .inr fresh),
      Passage.delivery_aborted rfl rfl,
      FailureTable.standing_delaying (FailureTable.pendingForward_record_self _ _ _ false true)
        (FailureTable.pendingDelay_record_self _ _ _ false true)]
    exact .deferred rfl rfl (spent retryable)
  | unreadable later fresh tries failed hopeless => cases fine
  | decided now tries failed defers =>
    subst now
    obtain ⟨cause, last, same, spent⟩ := tries.exhausted failed
    obtain ⟨retryable, op, sent, copy⟩ := defers.copied fine (tries.keeps.2.trans home)
    rw [FailureTable.standing_trying (fun later => by cases later) (fun later => by cases later),
      Passage.delivery_completed fine ((defers.aborted.trans (tries.aborted failed)).trans kept)]
    refine .copiedNow rfl (spent retryable) ?_ copy
    simp [attemptDeeds, Deed.tally, tries.sends_nothing.1, sent]

inductive Leaves (bound : Nat) (mode : DecisionMode) (policy : Option DelayPolicy)
    (ds : List Deed) : Standing → Prop where
  | tried {n : Nat} {cause : Failure} (last : lastFailure ds = some cause)
      (spent : cause.isRetryable = true → bound ≤ n)
      (hopeless : mode = .onNextDelivery → policy.isSome = true → cause.isRetryable = false) :
      Leaves bound mode policy ds (.trying n)
  | undelayed (later : mode = .onNextDelivery) (silent : lastFailure ds = none) :
      Leaves bound mode policy ds .delaying

theorem Delays.leaves (delays : Delays o handlers bound mode c w policy p w' ds)
    (failed : p.failure = some failure)
    (unforwarded : mode = .onNextDelivery → w.table.pendingForward c.message.id = none) :
    Leaves bound mode policy ds (w.table.standing mode policy c.message.id) := by
  cases delays with
  | absent tries =>
    obtain ⟨cause, last, same, spent⟩ := tries.exhausted failed
    rw [FailureTable.standing_trying unforwarded (fun _ => .inl rfl)]
    exact .tried last (fun retryable => spent (same.symm.trans retryable)) (fun _ => nofun)
  | resumed later pending defers =>
    subst later
    rw [FailureTable.standing_delaying (unforwarded rfl) pending]
    exact .undelayed rfl defers.silent.1
  | passed fresh tries fine => cases failed.symm.trans fine
  | postponed later fresh tries failed' retryable => cases failed
  | unreadable later fresh tries failed' hopeless =>
    obtain ⟨cause, last, same, spent⟩ := tries.exhausted failed'
    rw [FailureTable.standing_trying unforwarded (fun _ => .inr fresh)]
    exact .tried last (fun retryable => spent (same.symm.trans retryable))
      (fun _ _ => same.trans hopeless)
  | decided now tries failed' defers =>
    subst now
    obtain ⟨cause, last, same, spent⟩ := tries.exhausted failed'
    rw [FailureTable.standing_trying (fun later => by cases later) (fun later => by cases later)]
    refine .tried (?_ : _ = some cause) (fun retryable => spent (same.symm.trans retryable)) nofun
    rw [List.cons_append, lastFailure_entered, lastFailure_append, defers.silent.1,
      lastFailure_attemptDeeds, last]
    rfl

theorem Forwards.sent_or_failed (forwards : Forwards o s.errorQueue failure c w p w' ds)
    (kept : c.aborted = false) :
    (p.delivery = .completed ∧ ∃ op, (tally ds).sent = [op] ∧ op.IsForward s) ∨
      ∃ refusal, p.delivery = .failed refusal := by
  cases forwards with
  | sent copy accepted told =>
    subst copy
    exact .inl ⟨Passage.delivery_completed rfl kept, _, rfl, rfl, rfl⟩
  | refused copy refused => exact .inr ⟨_, rfl⟩

theorem Delivers.leg (delivers : Delivers o handlers bound mode policy s.errorQueue c w p w' ds)
    (kept : c.aborted = false) (home : c.address = s.address) :
    Leg s bound mode policy ds (w.table.standing mode policy c.message.id) p.delivery
      (w'.table.standing mode policy c.message.id) := by
  have outermost : ReceivePipeline.errorForwardName ≠ ReceivePipeline.immediateRetriesName := by
    decide
  cases delivers with
  | resumed later pending forwards =>
    subst later
    rw [FailureTable.standing_forwarding pending]
    rcases forwards.sent_or_failed kept with ⟨sent, op, gone, forward⟩ | ⟨refusal, failed⟩
    · rw [sent]
      refine .forwardedLater rfl ?_ forwards.silent.1 (by simpa [Deed.tally] using gone) forward
      rw [attemptedIn_entered outermost, forwards.silent.2]
    · rw [failed]
      exact .failed refusal
  | passed fresh delays fine => exact delays.leg kept home fine fresh _ _ outermost
  | postponed later fresh delays failed =>
    subst later
    rw [Passage.delivery_aborted rfl rfl, FailureTable.standing_forwarding
      (FailureTable.pendingForward_record_self _ _ _ true false)]
    have leaves := delays.leaves failed (fun _ => fresh)
    generalize w.table.standing .onNextDelivery policy c.message.id = here at leaves
    cases leaves with
    | tried last spent hopeless => exact .condemned rfl last (hopeless rfl)
    | undelayed later silent => exact .undelayed rfl silent
  | forwarded now delays failed forwards =>
    subst now
    have leaves := delays.leaves failed (fun later => by cases later)
    generalize w.table.standing .atOnce policy c.message.id = here at leaves
    cases leaves with
    | undelayed later silent => cases later
    | tried last spent hopeless =>
      cases delays.balance kept home with
      | handled fine => cases failed.symm.trans fine
      | deferred fine => cases failed.symm.trans fine
      | aborted fine => cases failed.symm.trans fine
      | failed _ inside partly idle copies =>
        rcases forwards.sent_or_failed inside with
          ⟨sent, op, gone, forward⟩ | ⟨refusal, failed⟩
        · rw [sent]
          refine .forwardedNow rfl ?_ spent ?_ forward
          · rw [List.cons_append, lastFailure_entered, lastFailure_append, forwards.silent.1, last]
            rfl
          · simp [Deed.tally, idle, gone]
        · rw [failed]
          exact .failed refusal

end legs

inductive Underway {σ : Type} (bound : Nat) (mode : DecisionMode) (policy : Option DelayPolicy)
    (before : List (Course σ Delivery)) : Standing → Prop where
  | trying (each : ∀ pass ∈ before, pass.attempted = true) (within : before.length ≤ bound) :
      Underway bound mode policy before (.trying before.length)
  | delaying (count : before.length = bound + 1) : Underway bound mode policy before .delaying
  | forwarding (count : policy.isSome = true → ∀ cause,
        lastFailure (before.flatMap (·.deeds)) = some cause → cause.isRetryable = true →
          before.length = bound + 2) : Underway bound mode policy before .forwarding

theorem Underway.onward {σ : Type} {s : Settings} {bound : Nat} {mode : DecisionMode}
    {policy : Option DelayPolicy} {before : List (Course σ Delivery)} {here next : Standing}
    {pass : Course σ Delivery} (underway : Underway bound mode policy before here)
    (leg : Leg s bound mode policy pass.deeds here .aborted next) :
    Underway bound mode policy (before ++ [pass]) next := by
  have longer : (before ++ [pass]).length = before.length + 1 := by simp
  cases leg with
  | retried attempted left =>
    cases underway with
    | trying each within =>
      rw [← longer]
      refine .trying ?_ (longer.symm ▸ left)
      intro other member
      rcases List.mem_append.1 member with earlier | this
      · exact each other earlier
      · cases List.mem_singleton.1 this
        exact attempted
  | deferred later installed spent =>
    cases underway with
    | trying each within => exact .delaying (by omega)
  | condemned later last hopeless =>
    refine .forwarding fun installed cause failed retryable => ?_
    rw [List.flatMap_append, List.flatMap_singleton, lastFailure_append, last] at failed
    cases failed
    cases (hopeless installed).symm.trans retryable
  | undelayed later silent =>
    cases underway with
    | delaying count => exact .forwarding fun _ _ _ _ => by omega

namespace ReceivePipeline
variable {σ : Type} {o : Outside σ} {handlers : List (Nat × String)} {s : Settings}
  {given : Option DelayPolicy} {p : ReceivePipeline} {m : Incoming} {w v : World σ}
  {before after : List (Course σ Delivery)} {pass : Course σ Delivery} {allowed : Nat}

def stands (s : Settings) (given : Option DelayPolicy) (m : Incoming) (w : World σ) : Standing :=
  w.table.standing (modeOf s) (policyOf s given) m.id

theorem exists_leg (built : build s given (handlerStages handlers) = .ok p)
    (calm : o.Calm handlers) (m : Incoming) (w : World σ) :
    ∃ d w' ds, (p.invoke m).course o w = ⟨.done d, w', ds⟩ ∧
      Leg s s.immediateRetries.toNat (modeOf s) (policyOf s given) ds (stands s given m w) d
        (stands s given m w') ∧
      Account s m.id p.stageNames (tally ds) w'.table d := by
  obtain ⟨passage, w', ds, delivers, course⟩ := exists_course_invoke built calm m w
  have account := delivers.account rfl (address_of_build built)
  rw [← stages_of_handlers built] at account
  exact ⟨_, w', ds, course, delivers.leg rfl (address_of_build built), account⟩

theorem length_passes (built : build s given (handlerStages handlers) = .ok p)
    (calm : o.Calm handlers) (m : Incoming) (allowed : Nat) (w : World σ) :
    (p.passes o m allowed w).length ≤ (stands s given m w).deliveriesLeft
      s.immediateRetries.toNat ((modeOf s).closing (policyOf s given)) := by
  induction allowed generalizing w with
  | zero => exact Nat.zero_le _
  | succ allowed ih =>
    obtain ⟨d, w', ds, course, leg, -⟩ := exists_leg built calm m w
    by_cases again : d = .aborted
    · subst again
      have rest := ih w'
      have fewer := leg.fewer
      rw [passes_aborted allowed course, List.length_cons]
      omega
    · rw [passes_last allowed (by rw [course]; simpa using again)]
      exact Standing.deliveriesLeft_pos _ _ _ _

theorem Leads.underway (built : build s given (handlerStages handlers) = .ok p)
    (calm : o.Calm handlers) (leads : Leads o p m w before v)
    {earlier : List (Course σ Delivery)}
    (underway : Underway s.immediateRetries.toNat (modeOf s) (policyOf s given) earlier
      (stands s given m w)) :
    Underway s.immediateRetries.toNat (modeOf s) (policyOf s given) (earlier ++ before)
      (stands s given m v) := by
  induction leads generalizing earlier with
  | here w =>
    rw [List.append_nil]
    exact underway
  | @again w w' v ds before aborted later ih =>
    obtain ⟨d, w'', ds', course, leg, -⟩ := exists_leg built calm m w
    cases course.symm.trans aborted
    rw [List.append_cons]
    exact ih (underway.onward leg)

/-- Any delivery of a processing, with the deliveries in front of it and nothing behind it unless
it was aborted. -/
theorem exists_leg_of_passes (built : build s given (handlerStages handlers) = .ok p)
    (calm : o.Calm handlers) (unrecorded : w.table.lookup m.id = none)
    (split : p.passes o m allowed w = before ++ pass :: after) :
    ∃ d here next, pass.ended = .done d ∧
      Underway s.immediateRetries.toNat (modeOf s) (policyOf s given) before here ∧
      Leg s s.immediateRetries.toNat (modeOf s) (policyOf s given) pass.deeds here d next ∧
      Account s m.id p.stageNames pass.tally pass.world.table d ∧
      (d ≠ .aborted → after = []) := by
  obtain ⟨v, left, leads, -, rfl, rest⟩ := leads_of_passes split
  obtain ⟨d, w', ds, course, leg, account⟩ := exists_leg built calm m v
  have start : Underway s.immediateRetries.toNat (modeOf s) (policyOf s given)
      ([] : List (Course σ Delivery)) (stands s given m w) := by
    rw [stands, FailureTable.standing_unrecorded _ _ unrecorded]
    exact .trying (by simp) (Nat.zero_le _)
  refine ⟨d, stands s given m v, stands s given m w', congrArg Course.ended course,
    leads.underway built calm start, ?_, ?_, ?_⟩
  · rw [course]
    exact leg
  · rw [course]
    exact account
  · intro last
    rw [passes_last left (by rw [course]; simpa using last)] at rest
    exact (List.cons.inj rest).2.symm

/-- The deliveries of a processing, counted by what was recorded before it. -/
structure DeliveryCount (s : Settings) (given : Option DelayPolicy) (p : ReceivePipeline)
    (id : String) (start : FailureTable) (run : Course σ Processed)
    (deliveries : List (Course σ Delivery)) : Prop where
  ends : ∃ result, run.ended = .done result
  deeds : run.deeds = deliveries.flatMap (·.deeds)
  bound : deliveries.length ≤
    s.immediateRetries.toNat - start.attempts id + (modeOf s).closing (policyOf s given)
  reported : ∀ n, run.ended = .done (.settled n) → n = deliveries.length
  handled : start.lookup id = none → ∀ pass ∈ deliveries, pass.tally.Complete p.stageNames →
    run.ended = .done (.settled (deliveries.countP (·.attempted)))
  delayed : start.lookup id = none → ∀ op ∈ run.tally.sent, op.IsDelayedCopy s →
    run.ended = .done (.settled (s.immediateRetries.toNat +
      match modeOf s with
      | .atOnce => 1
      | .onNextDelivery => 2))
  forwarded : start.lookup id = none → ∀ op ∈ run.tally.sent, op.IsForward s →
    (policyOf s given).isSome = true → ∀ cause, lastFailure run.deeds = some cause →
    cause.isRetryable = true →
    run.ended = .done (.settled (s.immediateRetries.toNat +
      match modeOf s with
      | .atOnce => 1
      | .onNextDelivery => 3))

theorem completed_of_account {id : String} {names : List String} {n : Tally} {t : FailureTable}
    {d : Delivery} (account : Account s id names n t d) (complete : n.Complete names) :
    d = .completed := by
  cases account with
  | handled => rfl
  | sent => rfl
  | aborted partly => exact absurd complete partly
  | failed partly => exact absurd complete partly

theorem attemptedIn_of_complete {ds : List Deed}
    (built : build s given (handlerStages handlers) = .ok p)
    (complete : (tally ds).Complete p.stageNames) : attemptedIn ds = true := by
  rw [attemptedIn, complete.1, stageNames, stages_of_handlers built]
  simp [allStages, retryStages]

theorem ended_of_completed (built : build s given (handlerStages handlers) = .ok p)
    (calm : o.Calm handlers) (split : p.passes o m Whole.max32 w = before ++ [pass])
    (completed : pass.ended = .done .completed) :
    ((p.process m).course o w).ended = .done (.settled (before.length + 1)) := by
  obtain ⟨before', last, d, conclusion, split', run, -⟩ :=
    exists_conclusion built calm m 4294967294 0 w
  obtain ⟨rfl, same⟩ := List.append_inj' (split.symm.trans split') rfl
  cases same
  cases completed.symm.trans conclusion.ended
  rw [process, show Whole.max32 = 4294967294 + 1 from rfl, run]
  simp [Delivery.result]

/-- The only deliveries that send anything are the last ones. -/
theorem exists_leg_of_sent (built : build s given (handlerStages handlers) = .ok p)
    (calm : o.Calm handlers) (unrecorded : w.table.lookup m.id = none) {op : Operation}
    (sent : op ∈ ((p.process m).course o w).tally.sent) :
    ∃ (before : List (Course σ Delivery)) (pass : Course σ Delivery) (here next : Standing),
      Underway s.immediateRetries.toNat (modeOf s) (policyOf s given) before here ∧
      Leg s s.immediateRetries.toNat (modeOf s) (policyOf s given) pass.deeds here .completed
        next ∧
      op ∈ pass.tally.sent ∧
      ((p.process m).course o w).deeds = (before ++ [pass]).flatMap (·.deeds) ∧
      ((p.process m).course o w).ended = .done (.settled (before.length + 1)) := by
  obtain ⟨before, pass, d, conclusion, split, run, -⟩ :=
    exists_conclusion built calm m 4294967294 0 w
  have deeds : ((p.process m).course o w).deeds = (before ++ [pass]).flatMap (·.deeds) :=
    congrArg Course.deeds run
  have here : op ∈ pass.tally.sent := by
    rw [Course.tally, deeds, List.flatMap_append, tally_append, Tally.sent_add, conclusion.idle,
      List.flatMap_singleton] at sent
    exact sent
  obtain ⟨d', here', next, ended, underway, leg, -⟩ :=
    exists_leg_of_passes built calm unrecorded split
  cases ended.symm.trans conclusion.ended
  cases conclusion.account with
  | handled complete idle => simp [idle] at here
  | aborted partly idle => simp [idle] at here
  | failed partly idle => simp [idle] at here
  | sent gone kind copies forgotten =>
    exact ⟨before, pass, here', next, underway, leg, here, deeds,
      ended_of_completed built calm split conclusion.ended⟩

theorem settled_passes (built : build s given (handlerStages handlers) = .ok p)
    (calm : o.Calm handlers) {n : Nat}
    (settled : ((p.process m).course o w).ended = .done (.settled n)) :
    n = (p.passes o m Whole.max32 w).length := by
  obtain ⟨before, last, d, conclusion, split, run, -⟩ :=
    exists_conclusion built calm m 4294967294 0 w
  rw [process, show Whole.max32 = 4294967294 + 1 from rfl, run] at settled
  rw [show Whole.max32 = 4294967294 + 1 from rfl, split, List.length_append,
    List.length_singleton]
  cases d <;> simp only [Delivery.result] at settled <;> cases settled
  omega

theorem settled_of_complete (built : build s given (handlerStages handlers) = .ok p)
    (calm : o.Calm handlers) (unrecorded : w.table.lookup m.id = none)
    (member : pass ∈ p.passes o m Whole.max32 w) (complete : pass.tally.Complete p.stageNames) :
    ((p.process m).course o w).ended =
      .done (.settled ((p.passes o m Whole.max32 w).countP (·.attempted))) := by
  obtain ⟨before, after, split⟩ := List.append_of_mem member
  obtain ⟨d, here, next, ended, underway, leg, account, last⟩ :=
    exists_leg_of_passes built calm unrecorded split
  have completed := completed_of_account account complete
  subst completed
  cases last fun same => by cases same
  have attempted := attemptedIn_of_complete built complete
  obtain ⟨n, rfl⟩ := leg.tried attempted
  have each : ∀ other ∈ before ++ [pass], other.attempted = true := by
    cases underway with
    | trying each within =>
      intro other member
      rcases List.mem_append.1 member with earlier | this
      · exact each other earlier
      · cases List.mem_singleton.1 this
        exact attempted
  rw [ended_of_completed built calm split ended, split, List.countP_eq_length.2 each,
    List.length_append, List.length_singleton]

theorem settled_of_copy (built : build s given (handlerStages handlers) = .ok p)
    (calm : o.Calm handlers) (unrecorded : w.table.lookup m.id = none) {op : Operation}
    (sent : op ∈ ((p.process m).course o w).tally.sent) (copy : op.IsDelayedCopy s) :
    ((p.process m).course o w).ended = .done (.settled (s.immediateRetries.toNat +
      match modeOf s with
      | .atOnce => 1
      | .onNextDelivery => 2)) := by
  obtain ⟨before, pass, here, next, underway, leg, gone, -, ended⟩ :=
    exists_leg_of_sent built calm unrecorded sent
  rw [ended]
  cases leg with
  | handled attempted idle => cases idle ▸ gone
  | copiedNow now spent =>
    cases underway with
    | trying each within =>
      rw [now, Nat.le_antisymm within spent]
  | copiedLater later =>
    cases underway with
    | delaying count =>
      rw [later, count]
      rfl
  | forwardedNow now last spent sent forward =>
    cases List.mem_singleton.1 (sent ▸ gone)
    exact absurd copy forward.not_copy
  | forwardedLater later unattempted silent sent forward =>
    cases List.mem_singleton.1 (sent ▸ gone)
    exact absurd copy forward.not_copy

theorem settled_of_forward (built : build s given (handlerStages handlers) = .ok p)
    (calm : o.Calm handlers) (unrecorded : w.table.lookup m.id = none) {op : Operation}
    (sent : op ∈ ((p.process m).course o w).tally.sent) (forward : op.IsForward s)
    (installed : (policyOf s given).isSome = true) {cause : Failure}
    (last : lastFailure ((p.process m).course o w).deeds = some cause)
    (retryable : cause.isRetryable = true) :
    ((p.process m).course o w).ended = .done (.settled (s.immediateRetries.toNat +
      match modeOf s with
      | .atOnce => 1
      | .onNextDelivery => 3)) := by
  obtain ⟨before, pass, here, next, underway, leg, gone, deeds, ended⟩ :=
    exists_leg_of_sent built calm unrecorded sent
  rw [deeds, List.flatMap_append, List.flatMap_singleton, lastFailure_append] at last
  rw [ended]
  cases leg with
  | handled attempted idle => cases idle ▸ gone
  | copiedNow now spent sent copy =>
    cases List.mem_singleton.1 (sent ▸ gone)
    exact absurd copy forward.not_copy
  | copiedLater later unattempted sent copy =>
    cases List.mem_singleton.1 (sent ▸ gone)
    exact absurd copy forward.not_copy
  | forwardedNow now failed spent =>
    rw [failed] at last
    cases last
    cases underway with
    | trying each within => rw [now, Nat.le_antisymm within (spent retryable)]
  | forwardedLater later unattempted silent =>
    rw [silent] at last
    cases underway with
    | forwarding count =>
      rw [later, count installed cause last retryable]
      rfl

/-- The processing of a message comes to an end, with no more deliveries than the immediate
retries left to it and those that close it. Without a record at first, their number is the one
reported: that of the attempt that succeeds, and the largest possible where immediate retries were
used up. -/
theorem process_deliveries_counted (built : build s given (handlerStages handlers) = .ok p)
    (calm : o.Calm handlers) (room : s.immediateRetries.toNat + 3 ≤ Whole.max32) (m : Incoming)
    (w : World σ) :
    DeliveryCount s given p m.id w.table ((p.process m).course o w)
      (p.passes o m Whole.max32 w) where
  ends := by
    obtain ⟨before, last, -, -, -, ends⟩ := process_settles_once built calm m w
    exact ends room
  deeds := deeds_processWithin o p m Whole.max32 0 w
  bound := Nat.le_trans (length_passes built calm m Whole.max32 w)
    (FailureTable.deliveriesLeft_standing w.table _ _ _ m.id)
  reported n := settled_passes built calm
  handled unrecorded pass := settled_of_complete built calm unrecorded
  delayed unrecorded op := settled_of_copy built calm unrecorded
  forwarded unrecorded op sent forward installed cause :=
    settled_of_forward built calm unrecorded sent forward installed

theorem stumbling_deliveries_counted : ∃ p,
    build (.forAddress "orders") none (handlerStages [(0, "Billing")]) = .ok p ∧
    Cast.stumbling.outside.Calm [(0, "Billing")] ∧
    (Settings.forAddress "orders").immediateRetries.toNat + 3 ≤ Whole.max32 ∧
    DeliveryCount (.forAddress "orders") none p "" (.ofCapacity 1000)
      ((p.process default).course Cast.stumbling.outside ⟨.ofCapacity 1000, {}⟩)
      (p.passes Cast.stumbling.outside default Whole.max32 ⟨.ofCapacity 1000, {}⟩) :=
  ⟨_, rfl, Cast.stumbling_calm, by decide,
    process_deliveries_counted rfl Cast.stumbling_calm (by decide) default
      ⟨.ofCapacity 1000, {}⟩⟩

end ReceivePipeline
end Redelivery
