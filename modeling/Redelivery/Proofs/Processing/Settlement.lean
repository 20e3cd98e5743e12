import Redelivery.Proofs.Delivery.Outcome

/-! Settling a message exactly once. Every delivery that is aborted leaves fewer deliveries in front
of the message, so that processing comes to an end, and what the last delivery did is all that
was sent for the message. -/
namespace Redelivery

/-- The deliveries after which a message with some record is settled or its forwarding failed. -/
def FailureTable.deliveriesLeft (t : FailureTable) (mode : DecisionMode)
    (policy : Option DelayPolicy) (bound : Nat) (id : String) : Nat :=
  if mode = .onNextDelivery ∧ (t.pendingForward id).isSome then 1
  else if mode = .onNextDelivery ∧ policy.isSome ∧ (t.pendingDelay id).isSome then 2
  else bound - t.attempts id + 3

section measure
variable {σ : Type} {o : Outside σ} {handlers : List (Nat × String)} {bound : Nat}
  {mode : DecisionMode} {policy : Option DelayPolicy} {asked : DelayPolicy}
  {errorQueue : String} {failure : Failure} {c : Context} {w w' : World σ} {p : Passage}
  {ds : List Deed}

theorem FailureTable.deliveriesLeft_pos (mode : DecisionMode) (policy : Option DelayPolicy)
    (bound : Nat) (t : FailureTable) (id : String) :
    0 < t.deliveriesLeft mode policy bound id := by
  rw [deliveriesLeft]
  split
  · omega
  · split <;> omega

theorem FailureTable.deliveriesLeft_le (mode : DecisionMode) (policy : Option DelayPolicy)
    (bound : Nat) (t : FailureTable) (id : String) :
    t.deliveriesLeft mode policy bound id ≤ bound + 3 := by
  rw [deliveriesLeft]
  split
  · omega
  · split <;> omega

theorem Tries.attempts (tries : Tries o handlers bound c w p w' ds)
    (kept : c.aborted = false) (aborted : p.context.aborted = true) :
    ∃ failure, w.table.attempts c.message.id < bound ∧
      w'.table = (w.table.record c.message.id failure false false).1 := by
  cases tries with
  | succeeded handled done => cases kept.symm.trans aborted
  | absorbed handled failed retryable left told => exact ⟨_, left, rfl⟩
  | usedUp handled failed retryable spent => cases kept.symm.trans aborted
  | unreadable handled failed hopeless => cases kept.symm.trans aborted

theorem FailureTable.deliveriesLeft_plain {t : FailureTable} {id : String}
    (unforwarded : mode = .onNextDelivery → t.pendingForward id = none)
    (undelayed : mode = .onNextDelivery → policy = none ∨ t.pendingDelay id = none) :
    t.deliveriesLeft mode policy bound id = bound - t.attempts id + 3 := by
  rw [deliveriesLeft]
  cases mode with
  | atOnce => simp
  | onNextDelivery =>
    rw [unforwarded rfl]
    rcases undelayed rfl with none | none <;> simp [none]

theorem FailureTable.deliveriesLeft_retried {t : FailureTable} {id : String} (failure : Failure)
    (unforwarded : mode = .onNextDelivery → t.pendingForward id = none)
    (undelayed : mode = .onNextDelivery → policy = none ∨ t.pendingDelay id = none)
    (left : t.attempts id < bound) :
    (t.record id failure false false).1.deliveriesLeft mode policy bound id <
      t.deliveriesLeft mode policy bound id := by
  rw [deliveriesLeft_plain unforwarded undelayed,
    deliveriesLeft_plain (fun _ => pendingForward_record_self t id failure false false)
      (fun _ => .inr (pendingDelay_record_self t id failure false false)),
    attempts_record_self]
  omega

theorem Delays.fewer (delays : Delays o handlers bound mode c w policy p w' ds)
    (kept : c.aborted = false)
    (unforwarded : mode = .onNextDelivery → w.table.pendingForward c.message.id = none)
    (fine : p.failure = none) (aborted : p.context.aborted = true) :
    w'.table.deliveriesLeft mode policy bound c.message.id <
      w.table.deliveriesLeft mode policy bound c.message.id := by
  cases delays with
  | absent tries =>
    obtain ⟨failure, left, recorded⟩ := tries.attempts kept aborted
    rw [recorded]
    exact FailureTable.deliveriesLeft_retried failure unforwarded (fun _ => .inl rfl) left
  | resumed later pending defers => cases (defers.aborted.trans kept).symm.trans aborted
  | passed fresh tries fine =>
    obtain ⟨failure, left, recorded⟩ := tries.attempts kept aborted
    rw [recorded]
    exact FailureTable.deliveriesLeft_retried failure unforwarded (fun h => .inr (fresh h)) left
  | postponed later fresh tries failed retryable =>
    rw [FailureTable.deliveriesLeft_plain unforwarded (fun _ => .inr fresh)]
    simp only [FailureTable.deliveriesLeft, FailureTable.pendingForward_record_self,
      FailureTable.pendingDelay_record_self]
    simp [later]
  | unreadable later fresh tries failed hopeless => cases fine
  | decided now tries failed defers =>
    cases ((defers.aborted.trans (tries.aborted failed)).trans kept).symm.trans aborted

/-- A delivery that is to be repeated has fewer deliveries in front of it. -/
theorem Delivers.fewer (delivers : Delivers o handlers bound mode policy errorQueue c w p w' ds)
    (kept : c.aborted = false) (again : p.delivery = .aborted) :
    w'.table.deliveriesLeft mode policy bound c.message.id <
      w.table.deliveriesLeft mode policy bound c.message.id := by
  obtain ⟨fine, aborted⟩ := Passage.of_aborted again
  cases delivers with
  | resumed later pending forwards => cases (forwards.aborted.trans kept).symm.trans aborted
  | passed fresh delays fine => exact delays.fewer kept fresh fine aborted
  | postponed later fresh delays failed =>
    have more : 2 ≤ w.table.deliveriesLeft mode policy bound c.message.id := by
      rw [FailureTable.deliveriesLeft, if_neg (by simp [fresh])]
      split <;> omega
    rw [FailureTable.deliveriesLeft, if_pos ⟨later, by simp [FailureTable.pendingForward_record_self]⟩]
    exact more
  | forwarded now delays failed forwards =>
    cases delays.balance (s := { address := c.address }) kept rfl with
    | handled fine => cases failed.symm.trans fine
    | deferred fine => cases failed.symm.trans fine
    | aborted fine => cases failed.symm.trans fine
    | failed _ inside => cases (forwards.aborted.trans inside).symm.trans aborted

end measure

def Delivery.result : Delivery → Nat → Ended Processed
  | .completed, deliveries => .done (.settled deliveries)
  | .failed failure, _ => .done (.failed failure)
  | .aborted, _ => .panicked "attempt to add with overflow"

namespace ReceivePipeline
variable {σ : Type} {o : Outside σ} {handlers : List (Nat × String)} {s : Settings}
  {given : Option DelayPolicy} {p : ReceivePipeline}

theorem exists_account (built : build s given (handlerStages handlers) = .ok p)
    (calm : o.Calm handlers) (m : Incoming) (w : World σ) :
    ∃ d w' ds, (p.invoke m).course o w = ⟨.done d, w', ds⟩ ∧
      Account s m.id p.stageNames (tally ds) w'.table d ∧ (tally ds).Alarmed ∧
      (d = .aborted →
        w'.table.deliveriesLeft (modeOf s) (policyOf s given) s.immediateRetries.toNat m.id <
          w.table.deliveriesLeft (modeOf s) (policyOf s given) s.immediateRetries.toNat m.id) := by
  obtain ⟨passage, w', ds, delivers, course⟩ := exists_course_invoke built calm m w
  have account := delivers.account rfl (address_of_build built)
  rw [← stages_of_handlers built] at account
  exact ⟨_, _, _, course, account, delivers.alarmed, delivers.fewer rfl⟩

theorem course_processWithin_last {m : Incoming} {w w' : World σ} {d : Delivery} {ds : List Deed}
    (allowed earlier : Nat) (course : (p.invoke m).course o w = ⟨.done d, w', ds⟩)
    (last : d = .aborted → allowed = 0) :
    p.passes o m (allowed + 1) w = [⟨.done d, w', ds⟩] ∧
      (p.processWithin m (allowed + 1) earlier).course o w =
        ⟨d.result (earlier + 1), w', ds⟩ := by
  cases d with
  | completed =>
    refine ⟨?_, course_processWithin_completed allowed earlier course⟩
    simp [passes, course]
  | failed failure =>
    refine ⟨?_, course_processWithin_failed allowed earlier course⟩
    simp [passes, course]
  | aborted =>
    rw [last rfl]
    constructor
    · simp [passes, course]
    · rw [course_processWithin_aborted 0 earlier course, processWithin, Flow.course_panicked]
      simp [Delivery.result]

structure Conclusion (s : Settings) (p : ReceivePipeline) (id : String)
    (before : List (Course σ Delivery)) (last : Course σ Delivery) (d : Delivery) : Prop where
  ended : last.ended = .done d
  account : Account s id p.stageNames last.tally last.world.table d
  alarmed : last.tally.Alarmed
  idle : (tally (before.flatMap (·.deeds))).sent = []
  copies : ∀ r ∈ (tally (before.flatMap (·.deeds))).refused, r.1.IsDelayedCopy s
  alarmedBefore : (tally (before.flatMap (·.deeds))).Alarmed

theorem exists_conclusion (built : build s given (handlerStages handlers) = .ok p)
    (calm : o.Calm handlers) (m : Incoming) (allowed earlier : Nat) (w : World σ) :
    ∃ before last d, Conclusion s p m.id before last d ∧
      p.passes o m (allowed + 1) w = before ++ [last] ∧
      (p.processWithin m (allowed + 1) earlier).course o w =
        ⟨d.result (earlier + before.length + 1), last.world,
          (before ++ [last]).flatMap (·.deeds)⟩ ∧
      (d = .aborted → allowed + 1 <
        w.table.deliveriesLeft (modeOf s) (policyOf s given) s.immediateRetries.toNat m.id) := by
  -- On the deliveries allowed: an aborted one sent nothing, so what holds of the rest holds of all.
  induction allowed generalizing w earlier with
  | zero =>
    obtain ⟨d, w', ds, course, account, alarmed, fewer⟩ := exists_account built calm m w
    obtain ⟨one, run⟩ := course_processWithin_last 0 earlier course (fun _ => rfl)
    refine ⟨[], ⟨.done d, w', ds⟩, d, ⟨rfl, account, alarmed, rfl, by simp, rfl⟩, one, ?_, ?_⟩
    · simpa using run
    · intro again
      have left := FailureTable.deliveriesLeft_pos (modeOf s) (policyOf s given)
        s.immediateRetries.toNat w'.table m.id
      have := fewer again
      omega
  | succ allowed ih =>
    obtain ⟨d, w', ds, course, account, alarmed, fewer⟩ := exists_account built calm m w
    by_cases again : d = .aborted
    · subst again
      obtain ⟨before, last, d, conclusion, split, run, left⟩ := ih (earlier + 1) w'
      cases account with
      | aborted partly idle copies =>
        refine ⟨⟨.done .aborted, w', ds⟩ :: before, last, d,
          ⟨conclusion.ended, conclusion.account, conclusion.alarmed, ?_, ?_, ?_⟩, ?_, ?_, ?_⟩
        · simp [idle, conclusion.idle]
        · intro r member
          simp only [List.flatMap_cons, tally_append, Tally.refused_add, List.mem_append] at member
          rcases member with member | member
          · exact copies r member
          · exact conclusion.copies r member
        · rw [List.flatMap_cons, tally_append]
          exact alarmed.add conclusion.alarmedBefore
        · rw [passes, course]
          exact congrArg (_ :: ·) split
        · rw [course_processWithin_aborted _ _ course, run]
          simp only [Course.after_mk, List.cons_append, List.flatMap_cons, List.length_cons]
          rw [Nat.add_right_comm earlier 1, Nat.add_assoc earlier before.length 1]
        · intro unfinished
          have := left unfinished
          have := fewer rfl
          omega
    · obtain ⟨one, run⟩ := course_processWithin_last (allowed + 1) earlier course
        (fun h => absurd h again)
      refine ⟨[], ⟨.done d, w', ds⟩, d, ⟨rfl, account, alarmed, rfl, by simp, rfl⟩, one, ?_,
        fun h => absurd h again⟩
      simpa using run

/-- What processing did, told by its end, its tally and its last delivery. -/
structure SettledOnce (s : Settings) (p : ReceivePipeline) (id : String)
    (run : Course σ Processed) (last : Course σ Delivery) : Prop where
  once : run.tally.sent.length ≤ 1
  settled : (∃ deliveries, run.ended = .done (.settled deliveries)) ↔
    last.tally.Complete p.stageNames ∧ run.tally.sent = [] ∨
      ∃ op, run.tally.sent = [op] ∧ last.tally.sent = [op] ∧
        (op.IsDelayedCopy s ∨ op.IsForward s)
  forgotten : (∃ deliveries, run.ended = .done (.settled deliveries)) →
    run.world.table.lookup id = none
  failed : ∀ failure, run.ended = .done (.failed failure) ↔
    ∃ op, op.IsForward s ∧ (op, failure) ∈ run.tally.refused
  unsent : ∀ failure, run.ended = .done (.failed failure) → run.tally.sent = []
  alarmed : run.tally.Alarmed

theorem Conclusion.settledOnce {id : String} {before : List (Course σ Delivery)}
    {last : Course σ Delivery} {d : Delivery} {deliveries : Nat}
    (conclusion : Conclusion s p id before last d) :
    SettledOnce s p id
      ⟨d.result deliveries, last.world, (before ++ [last]).flatMap (·.deeds)⟩ last := by
  obtain ⟨-, account, alarmed, idle, copies, alarmedBefore⟩ := conclusion
  have all : ∀ ended world, (⟨ended, world, (before ++ [last]).flatMap (·.deeds)⟩ :
      Course σ Processed).tally = (tally (before.flatMap (·.deeds))).add last.tally := by
    intro ended world
    simp [Course.tally]
  have sent : ((tally (before.flatMap (·.deeds))).add last.tally).sent = last.tally.sent := by
    simp [idle]
  have alarms := alarmedBefore.add alarmed
  -- An operation that was refused is a copy, unless it is the forward that ended the processing.
  have unforwarded : (∀ r ∈ last.tally.refused, r.1.IsDelayedCopy s) → ∀ failure,
      ¬∃ op, op.IsForward s ∧
        (op, failure) ∈ ((tally (before.flatMap (·.deeds))).add last.tally).refused := by
    rintro lastCopies failure ⟨op, forward, member⟩
    rcases List.mem_append.1 member with member | member
    · exact forward.not_copy (copies _ member)
    · exact forward.not_copy (lastCopies _ member)
  cases account with
  | handled complete lastIdle unrefused forgotten =>
    constructor <;> simp only [all, sent]
    · simp [lastIdle]
    · simp [Delivery.result, complete, lastIdle]
    · exact fun _ => forgotten
    · intro failure
      simpa [Delivery.result] using unforwarded (forall_refused unrefused) failure
    · exact fun _ _ => lastIdle
    · exact alarms
  | sent gone kind lastCopies forgotten =>
    constructor <;> simp only [all, sent]
    · simp [gone]
    · simp [Delivery.result, gone, kind]
    · exact fun _ => forgotten
    · intro failure
      simpa [Delivery.result] using unforwarded lastCopies failure
    · intro failure ended
      cases ended
    · exact alarms
  | aborted partly lastIdle lastCopies =>
    constructor <;> simp only [all, sent]
    · simp [lastIdle]
    · simp [Delivery.result, partly, lastIdle]
    · rintro ⟨_, ended⟩
      cases ended
    · intro failure
      simpa [Delivery.result] using unforwarded lastCopies failure
    · exact fun _ _ => lastIdle
    · exact alarms
  | failed partly lastIdle copy forward refused =>
    constructor <;> simp only [all, sent]
    · simp [lastIdle]
    · simp [Delivery.result, partly, lastIdle]
    · rintro ⟨_, ended⟩
      cases ended
    · intro failure
      constructor
      · intro ended
        cases ended
        exact ⟨_, forward, List.mem_append_right _ (by simp [refused])⟩
      · rintro ⟨op, other, member⟩
        rcases List.mem_append.1 member with member | member
        · exact absurd (copies _ member) other.not_copy
        · rw [refused] at member
          rcases List.mem_append.1 member with member | member
          · exact absurd (copy _ member) other.not_copy
          · cases List.mem_singleton.1 member
            rfl
    · exact fun _ _ => lastIdle
    · exact alarms

/-- Processing a message settles it at most once, and comes to an end where the deliveries that the
immediate retries can take are within the largest number of 32 bits. -/
theorem process_settles_once (built : build s given (handlerStages handlers) = .ok p)
    (calm : o.Calm handlers) (m : Incoming) (w : World σ) :
    ∃ before last, p.passes o m Whole.max32 w = before ++ [last] ∧
      ((p.process m).course o w).deeds = (before ++ [last]).flatMap (·.deeds) ∧
      SettledOnce s p m.id ((p.process m).course o w) last ∧
      (s.immediateRetries.toNat + 3 ≤ Whole.max32 →
        ∃ result, ((p.process m).course o w).ended = .done result) := by
  obtain ⟨before, last, d, conclusion, split, run, left⟩ :=
    exists_conclusion built calm m 4294967294 0 w
  refine ⟨before, last, split, ?_⟩
  rw [process, show Whole.max32 = 4294967294 + 1 from rfl, run]
  refine ⟨rfl, conclusion.settledOnce, fun room => ?_⟩
  cases d with
  | completed => exact ⟨_, rfl⟩
  | failed failure => exact ⟨_, rfl⟩
  | aborted =>
    have atMost := FailureTable.deliveriesLeft_le (modeOf s) (policyOf s given)
      s.immediateRetries.toNat w.table m.id
    have unfinished := left rfl
    omega

theorem stumbling_settles_once : ∃ p,
    build (.forAddress "orders") none (handlerStages [(0, "Billing")]) = .ok p ∧
    Cast.stumbling.outside.Calm [(0, "Billing")] ∧
    ∃ before last, p.passes Cast.stumbling.outside default Whole.max32
        ⟨.ofCapacity 1000, {}⟩ = before ++ [last] ∧
      ((p.process default).course Cast.stumbling.outside ⟨.ofCapacity 1000, {}⟩).deeds =
        (before ++ [last]).flatMap (·.deeds) ∧
      SettledOnce (.forAddress "orders") p ""
        ((p.process default).course Cast.stumbling.outside ⟨.ofCapacity 1000, {}⟩) last ∧
      ((Settings.forAddress "orders").immediateRetries.toNat + 3 ≤ Whole.max32 →
        ∃ result, ((p.process default).course Cast.stumbling.outside
          ⟨.ofCapacity 1000, {}⟩).ended = .done result) :=
  ⟨_, rfl, Cast.stumbling_calm,
    process_settles_once rfl Cast.stumbling_calm default ⟨.ofCapacity 1000, {}⟩⟩

end ReceivePipeline
end Redelivery
