import Redelivery.Proofs.FailureTable.StageChanges

/-! The bound of immediate retries among other messages. What a message may still be retried at
once stands in its record, so the bound holds as long as that record is not dropped to make room
for another message. With fewer rows than messages that fail, it does not hold. -/
namespace Redelivery

def Ended.failedWith? : Ended Passage → Option Failure
  | .done p => p.failure
  | .panicked _ => none

/-- The record that only an immediate retry makes. -/
def TableChange.isRetryOf (id : String) : TableChange → Bool
  | .recorded other _ false false => other = id
  | _ => false

namespace ReceivePipeline
variable {σ : Type}

def visits (o : Outside σ) (p : ReceivePipeline) :
    List Incoming → World σ → List (Incoming × World σ)
  | [], _ => []
  | m :: ms, w => (m, w) :: visits o p ms ((p.invoke m).course o w).world

section visit
variable (o : Outside σ) (p : ReceivePipeline) (own : List Stage) (visit : Incoming × World σ)

def absorbs : Bool := ((p.invoke visit.1).changes o visit.2).any (·.isRetryOf visit.1.id)

end visit
end ReceivePipeline

open ReceivePipeline

section ways
variable {mode : DecisionMode} {bound : Nat} {policy : Option DelayPolicy} {id other : String}
  {t : FailureTable} {mine e : Ended Passage} {reached : Bool} {changes : List TableChange}
  {p : Passage} {failure : Failure}

/-- The next delivery only carries out what is recorded. -/
def FailureTable.decided (mode : DecisionMode) (policy : Option DelayPolicy) (id : String)
    (t : FailureTable) : Bool :=
  mode = .onNextDelivery &&
    ((t.pendingForward id).isSome || policy.isSome && (t.pendingDelay id).isSome)

theorem Clears.none_retry (clears : Clears id changes) : changes.any (·.isRetryOf other) = false := by
  rw [List.any_eq_false]
  intro change member
  rw [clears change member]
  simp [TableChange.isRetryOf]

theorem Delivered.unreached (delivered : Delivered mode bound policy id t mine false changes e) :
    changes.any (·.isRetryOf id) = false ∧ t.decided mode policy id = true := by
  have resumed {policy : Option DelayPolicy} {changes : List TableChange} {e : Ended Passage}
      (deferred : Deferred mode bound id t mine policy false changes e) :
      Clears id changes ∧ t.decided mode policy id = true := by
    cases deferred with
    | resumed later pending clears =>
      exact ⟨clears, by simp [FailureTable.decided, later, pending]⟩
  cases delivered with
  | resumed later pending clears =>
    exact ⟨clears.none_retry, by simp [FailureTable.decided, later, pending]⟩
  | passed fresh deferred unfailed =>
    exact ⟨(resumed deferred).1.none_retry, (resumed deferred).2⟩
  | postponed later fresh deferred failed fine =>
    refine ⟨?_, (resumed deferred).2⟩
    rw [List.any_append, (resumed deferred).1.none_retry]
    rfl
  | forwarded now deferred failed clears =>
    refine ⟨?_, (resumed deferred).2⟩
    rw [List.any_append, (resumed deferred).1.none_retry, clears.none_retry]
    rfl

theorem Attempted.retried (attempted : Attempted bound id t mine changes e)
    (again : changes.any (·.isRetryOf id) = true) :
    (∃ failure, changes = [.recorded id failure false false]) ∧ t.attempts id < bound ∧
      e.failedWith? = none := by
  cases attempted with
  | absorbed failed retryable left fine => exact ⟨⟨_, rfl⟩, left, fine⟩
  | panicked text => simp at again
  | succeeded fine => simp [TableChange.isRetryOf] at again
  | usedUp => simp [TableChange.isRetryOf] at again
  | unreadable => simp at again

theorem Deferred.retried
    (deferred : Deferred mode bound id t mine policy true changes e)
    (again : changes.any (·.isRetryOf id) = true) :
    (mode = .onNextDelivery → policy.isSome = true → t.pendingDelay id = none) ∧
      (∃ failure, changes = [.recorded id failure false false]) ∧ t.attempts id < bound ∧
      e.failedWith? = none := by
  have passed {p : Passage} {failure : Failure} (failed : p.failure = some failure)
      {changes : List TableChange} (attempted : Attempted bound id t mine changes (.done p)) :
      changes.any (·.isRetryOf id) = false := by
    cases found : changes.any (·.isRetryOf id) with
    | false => rfl
    | true => cases (attempted.retried found).2.2.symm.trans failed
  cases deferred with
  | absent attempted => exact ⟨fun _ none => Bool.noConfusion none, attempted.retried again⟩
  | passed fresh attempted unfailed =>
    exact ⟨fun later _ => fresh later, attempted.retried again⟩
  | postponed later fresh attempted failed retryable fine =>
    rw [List.any_append, passed failed attempted] at again
    simp [TableChange.isRetryOf] at again
  | unreadable later fresh attempted failed hopeless passedOn =>
    cases (passed failed attempted).symm.trans again
  | decided now attempted failed clears same =>
    rw [List.any_append, passed failed attempted, clears.none_retry] at again
    cases again

theorem Delivered.retried (delivered : Delivered mode bound policy id t mine true changes e)
    (again : changes.any (·.isRetryOf id) = true) :
    t.decided mode policy id = false ∧ t.attempts id < bound ∧
      ∃ failure, changes = [.recorded id failure false false] := by
  have passed {p : Passage} {failure : Failure} (failed : p.failure = some failure)
      {changes : List TableChange}
      (deferred : Deferred mode bound id t mine policy true changes (.done p)) :
      changes.any (·.isRetryOf id) = false := by
    cases found : changes.any (·.isRetryOf id) with
    | false => rfl
    | true => cases (deferred.retried found).2.2.2.symm.trans failed
  cases delivered with
  | passed fresh deferred unfailed =>
    obtain ⟨undelayed, only, left, _⟩ := deferred.retried again
    refine ⟨?_, left, only⟩
    cases later : decide (mode = .onNextDelivery) with
    | false => simp [FailureTable.decided, later]
    | true =>
      have later := of_decide_eq_true later
      cases installed : policy.isSome with
      | false => simp [FailureTable.decided, fresh later, installed]
      | true => simp [FailureTable.decided, fresh later, undelayed later installed]
  | postponed later fresh deferred failed fine =>
    rw [List.any_append, passed failed deferred] at again
    simp [TableChange.isRetryOf] at again
  | forwarded now deferred failed clears =>
    rw [List.any_append, passed failed deferred, clears.none_retry] at again
    cases again

section names
variable {P : TableChange → Prop}

theorem Attempted.failed_id (attempted : Attempted bound id t mine changes (.done p))
    (failed : p.failure = some failure) :
    ∃ q, mine = .done q ∧ p.context.message.id = q.context.message.id := by
  cases attempted with
  | succeeded fine => exact ⟨_, rfl, rfl⟩
  | absorbed _ _ _ fine => cases fine.symm.trans failed
  | usedUp _ _ _ _ same => exact ⟨_, rfl, same⟩
  | unreadable => exact ⟨_, rfl, rfl⟩

theorem Deferred.failed_id
    (deferred : Deferred .atOnce bound id t mine policy reached changes (.done p))
    (failed : p.failure = some failure) :
    ∃ q, mine = .done q ∧ p.context.message.id = q.context.message.id := by
  cases deferred with
  | absent attempted => exact attempted.failed_id failed
  | resumed later => cases later
  | passed fresh attempted unfailed => exact attempted.failed_id failed
  | postponed later => cases later
  | unreadable later => cases later
  | decided now attempted failed' clears same =>
    obtain ⟨q, ended, kept⟩ := attempted.failed_id failed'
    exact ⟨q, ended, same.trans kept⟩

theorem Attempted.forall_changes (attempted : Attempted bound id t mine changes e)
    (own : ∀ change, change.id = id → P change) : ∀ change ∈ changes, P change := by
  intro change member
  refine own change ?_
  cases attempted with
  | panicked text => cases member
  | succeeded fine => rw [List.mem_singleton.1 member]; rfl
  | absorbed _ _ _ _ => rw [List.mem_singleton.1 member]; rfl
  | usedUp => rw [List.mem_singleton.1 member]; rfl
  | unreadable => cases member

theorem Clears.forall_changes (clears : Clears id changes) (cleared : P (.cleared id)) :
    ∀ change ∈ changes, P change := by
  intro change member
  rw [clears change member]
  exact cleared

theorem Deferred.forall_changes
    (deferred : Deferred mode bound id t mine policy reached changes e)
    (own : ∀ change, change.id = id → P change)
    (left : ∀ q, mine = .done q → P (.cleared q.context.message.id)) :
    ∀ change ∈ changes, P change := by
  intro change member
  cases deferred with
  | absent attempted => exact attempted.forall_changes own change member
  | resumed later pending clears => exact clears.forall_changes (own _ rfl) change member
  | passed fresh attempted unfailed => exact attempted.forall_changes own change member
  | unreadable later fresh attempted failed hopeless passed =>
    exact attempted.forall_changes own change member
  | postponed later fresh attempted failed retryable fine =>
    rcases List.mem_append.1 member with early | late
    · exact attempted.forall_changes own change early
    · exact own change (List.mem_singleton.1 late ▸ rfl)
  | decided now attempted failed clears same =>
    obtain ⟨q, ended, kept⟩ := attempted.failed_id failed
    rcases List.mem_append.1 member with early | late
    · exact attempted.forall_changes own change early
    · exact clears.forall_changes (kept ▸ left q ended) change late

theorem Delivered.forall_changes
    (delivered : Delivered mode bound policy id t mine reached changes e)
    (own : ∀ change, change.id = id → P change)
    (left : ∀ q, mine = .done q → P (.cleared q.context.message.id)) :
    ∀ change ∈ changes, P change := by
  intro change member
  cases delivered with
  | resumed later pending clears => exact clears.forall_changes (own _ rfl) change member
  | passed fresh deferred unfailed => exact deferred.forall_changes own left change member
  | postponed later fresh deferred failed fine =>
    rcases List.mem_append.1 member with early | late
    · exact deferred.forall_changes own left change early
    · exact own change (List.mem_singleton.1 late ▸ rfl)
  | forwarded now deferred failed clears =>
    subst now
    obtain ⟨q, ended, kept⟩ := deferred.failed_id failed
    rcases List.mem_append.1 member with early | late
    · exact deferred.forall_changes own left change early
    · exact clears.forall_changes (kept ▸ left q ended) change late

end names
end ways

namespace ReceivePipeline
variable {σ : Type} {s : Settings} {given : Option DelayPolicy} {own : List Stage}
  {p : ReceivePipeline}

def absorbed (o : Outside σ) (p : ReceivePipeline) (id : String)
    (visits : List (Incoming × World σ)) : Nat :=
  visits.countP fun visit => visit.1.id = id && absorbs o p visit

section crowds

def crowded (capacity : UInt64) : Settings :=
  { address := "sales", mode := .unprotected, immediateRetries := 1,
    delayed := { enabled := false }, capacity }

def crowdedPipeline : ReceivePipeline :=
  { stages := recoverability (crowded 1) none ++ handlerStages [(0, "Billing")],
    address := "sales" }

theorem crowded_built (capacity : UInt64) :
    build (crowded capacity) none (handlerStages [(0, "Billing")]) = .ok crowdedPipeline :=
  build_ok (s := crowded capacity) rfl (by cbv) none (handlerStages [(0, "Billing")])

end crowds
end ReceivePipeline
end Redelivery
