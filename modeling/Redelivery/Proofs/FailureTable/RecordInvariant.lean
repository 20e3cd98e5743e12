import Redelivery.Proofs.FailureTable.StageChanges

/-! What the records of failures look like whenever a pipeline is at work. A record without a
decision counts immediate retries, so it stays within their bound; a decision is recorded right
after the count started anew, or on top of a record that was left in place. -/
namespace Redelivery
open ReceivePipeline

/-- A record that deliveries under some settings can leave. -/
structure FailureRecord.Fits (s : Settings) (given : Option DelayPolicy) (r : FailureRecord) :
    Prop where
  counted : 1 ≤ r.attempts
  single : ¬(r.toErrorQueue = true ∧ r.toDelay = true)
  undecided : s.mode.canAbort = false →
    r.toErrorQueue = false ∧ r.toDelay = false ∧ r.attempts ≤ s.immediateRetries.toNat
  plain : s.mode.canAbort = true → r.toErrorQueue = false → r.toDelay = false →
    r.failure.isRetryable = true ∧ r.attempts ≤ s.immediateRetries.toNat
  delayed : s.mode.canAbort = true → r.toDelay = true →
    (policyOf s given).isSome = true ∧ r.failure.isRetryable = true ∧ r.attempts = 1
  forwarded : s.mode.canAbort = true → r.toErrorQueue = true →
    r.attempts ≤ max s.immediateRetries.toNat 1 + 1

theorem FailureRecord.Fits.attempts_le {s : Settings} {given : Option DelayPolicy}
    {r : FailureRecord} (fits : r.Fits s given) :
    r.attempts ≤ max s.immediateRetries.toNat 1 + 1 := by
  cases abortable : s.mode.canAbort with
  | false =>
    have bounded := (fits.undecided abortable).2.2
    omega
  | true =>
    cases forwarded : r.toErrorQueue with
    | true => exact fits.forwarded abortable forwarded
    | false =>
      cases delayed : r.toDelay with
      | true =>
        have one := (fits.delayed abortable delayed).2.2
        omega
      | false =>
        have bounded := (fits.plain abortable forwarded delayed).2
        omega

namespace FailureTable
variable {s : Settings} {given : Option DelayPolicy} {t : FailureTable} {id : String}
  {failure : Failure}

def Fits (s : Settings) (given : Option DelayPolicy) (t : FailureTable) : Prop :=
  ∀ id r, t.lookup id = some r → r.Fits s given

def StaysFit (s : Settings) (given : Option DelayPolicy) (t : FailureTable)
    (changes : List TableChange) : Prop :=
  ∀ before after, changes = before ++ after → (t.changed before).Fits s given

theorem StaysFit.end {changes : List TableChange} (stays : t.StaysFit s given changes) :
    (t.changed changes).Fits s given :=
  stays changes [] (List.append_nil _).symm

theorem Fits.stays_nil (fits : t.Fits s given) : t.StaysFit s given [] := by
  intro before after split
  rw [(List.append_eq_nil_iff.1 split.symm).1]
  exact fits

theorem StaysFit.append {first later : List TableChange} (one : t.StaysFit s given first)
    (two : (t.changed first).StaysFit s given later) : t.StaysFit s given (first ++ later) := by
  intro before after split
  rcases List.append_eq_append_iff.1 split with ⟨more, rfl, rest⟩ | ⟨more, rest, rfl⟩
  · rw [changed_append]
    exact two more after rest
  · exact one before more rest

theorem Fits.stays_one (fits : t.Fits s given) {change : TableChange}
    (later : (t.change change).Fits s given) : t.StaysFit s given [change] := by
  intro before after split
  cases before with
  | nil => exact fits
  | cons first before =>
    obtain ⟨rfl, rest⟩ := List.cons.inj split
    rw [(List.append_eq_nil_iff.1 rest.symm).1]
    exact later

theorem Fits.cleared (fits : t.Fits s given) (id : String) : (t.clear id).Fits s given := by
  intro other r known
  rw [lookup_clear] at known
  split at known
  · cases known
  · exact fits other r known

theorem Fits.recorded (fits : t.Fits s given) {toErrorQueue toDelay : Bool}
    (new : (counted (t.lookup id) failure toErrorQueue toDelay).Fits s given) :
    (t.change (.recorded id failure toErrorQueue toDelay)).Fits s given := by
  intro other r known
  by_cases same : other = id
  · rw [same, change, lookup_record_self] at known
    exact Option.some.inj known ▸ new
  · have different : other ≠ (TableChange.recorded id failure toErrorQueue toDelay).id := same
    rcases t.lookup_change_other other different with kept | ⟨gone, _⟩
    · exact fits other r (kept ▸ known)
    · cases gone.symm.trans known

theorem Fits.stays_clears (fits : t.Fits s given) {changes : List TableChange}
    (clears : Clears id changes) : t.StaysFit s given changes := by
  induction changes generalizing t with
  | nil => exact fits.stays_nil
  | cons change changes ih =>
    have cleared := clears change List.mem_cons_self
    subst cleared
    have forgotten : (t.change (.cleared id)).Fits s given := fits.cleared id
    have later := ih forgotten fun other member => clears other (List.mem_cons_of_mem _ member)
    exact (fits.stays_one forgotten).append later

theorem counted_attempts (t : FailureTable) (id : String) (failure : Failure)
    (toErrorQueue toDelay : Bool) :
    (counted (t.lookup id) failure toErrorQueue toDelay).attempts = t.attempts id + 1 := by
  unfold attempts
  cases t.lookup id <;> rfl

theorem counted_failure (known : Option FailureRecord) (failure : Failure)
    (toErrorQueue toDelay : Bool) :
    let r := counted known failure toErrorQueue toDelay
    r.failure = failure ∧ r.toErrorQueue = toErrorQueue ∧ r.toDelay = toDelay := by
  cases known <;> exact ⟨rfl, rfl, rfl⟩

theorem Fits.absorbed (fits : t.Fits s given) (retryable : failure.isRetryable = true)
    (left : t.attempts id < s.immediateRetries.toNat) :
    (t.change (.recorded id failure false false)).Fits s given := by
  obtain ⟨same, unforwarded, undelayed⟩ := counted_failure (t.lookup id) failure false false
  have attempts := t.counted_attempts id failure false false
  refine fits.recorded ⟨by omega, by simp [unforwarded], ?_, ?_, ?_, ?_⟩
  · intro _
    exact ⟨unforwarded, undelayed, by omega⟩
  · intro _ _ _
    exact ⟨(congrArg Failure.isRetryable same).trans retryable, by omega⟩
  · intro _ delayed
    cases undelayed.symm.trans delayed
  · intro _ forwarded
    cases unforwarded.symm.trans forwarded

theorem Fits.postponedDelay (fits : t.Fits s given) (abortable : s.mode.canAbort = true)
    (policy : (policyOf s given).isSome = true) (retryable : failure.isRetryable = true)
    (forgotten : t.lookup id = none) :
    (t.change (.recorded id failure false true)).Fits s given := by
  obtain ⟨same, unforwarded, delayed⟩ := counted_failure (t.lookup id) failure false true
  have attempts : (counted (t.lookup id) failure false true).attempts = 1 := by
    rw [counted_attempts, FailureTable.attempts, forgotten]
    rfl
  refine fits.recorded ⟨by omega, by simp [unforwarded], ?_, ?_, ?_, ?_⟩
  · intro none
    cases abortable.symm.trans none
  · intro _ _ undelayed
    cases delayed.symm.trans undelayed
  · intro _ _
    exact ⟨policy, (congrArg Failure.isRetryable same).trans retryable, attempts⟩
  · intro _ forwarded
    cases unforwarded.symm.trans forwarded

theorem Fits.postponedForward (fits : t.Fits s given) (abortable : s.mode.canAbort = true)
    (few : t.attempts id ≤ max s.immediateRetries.toNat 1) (failure : Failure) :
    (t.change (.recorded id failure true false)).Fits s given := by
  obtain ⟨_, forwarded, undelayed⟩ := counted_failure (t.lookup id) failure true false
  have attempts := t.counted_attempts id failure true false
  refine fits.recorded ⟨by omega, by simp [undelayed], ?_, ?_, ?_, ?_⟩
  · intro none
    cases abortable.symm.trans none
  · intro _ unforwarded _
    cases forwarded.symm.trans unforwarded
  · intro _ delayed
    cases undelayed.symm.trans delayed
  · intro _ _
    omega

theorem Fits.attempts_le (fits : t.Fits s given) (abortable : s.mode.canAbort = true)
    (fresh : t.pendingForward id = none) :
    t.attempts id ≤ max s.immediateRetries.toNat 1 := by
  rw [FailureTable.attempts]
  cases known : t.lookup id with
  | none => exact Nat.zero_le _
  | some r =>
    have fit := fits id r known
    obtain ⟨attempts, failure, toErrorQueue, toDelay⟩ := r
    cases toErrorQueue with
    | true => simp [pendingForward, known] at fresh
    | false =>
      cases toDelay with
      | true =>
        have one : attempts = 1 := (fit.delayed abortable rfl).2.2
        change attempts ≤ _
        omega
      | false =>
        have bounded : attempts ≤ s.immediateRetries.toNat := (fit.plain abortable rfl rfl).2
        change attempts ≤ _
        omega

end FailureTable

section ways
variable {s : Settings} {given : Option DelayPolicy} {id : String} {t : FailureTable}
  {mine e : Ended Passage} {changes : List TableChange} {reached : Bool} {p : Passage}
  {failure : Failure}

theorem canAbort_of_later (later : modeOf s = .onNextDelivery) : s.mode.canAbort = true := by
  cases abortable : s.mode.canAbort with
  | true => rfl
  | false => simp [modeOf, abortable, DecisionMode.ofAbortable] at later

theorem Attempted.stays_fit (attempted : Attempted s.immediateRetries.toNat id t mine changes e)
    (fits : t.Fits s given) : t.StaysFit s given changes := by
  cases attempted with
  | panicked text => exact fits.stays_nil
  | succeeded fine => exact fits.stays_one (fits.cleared id)
  | absorbed failed retryable left fine => exact fits.stays_one (fits.absorbed retryable left)
  | usedUp failed retryable spent passed same => exact fits.stays_one (fits.cleared id)
  | unreadable failed hopeless => exact fits.stays_nil

theorem Attempted.failed (attempted : Attempted s.immediateRetries.toNat id t mine changes (.done p))
    (failed : p.failure = some failure) :
    changes = [.cleared id] ∧ failure.isRetryable = true ∨
      changes = [] ∧ failure.isRetryable = false := by
  cases attempted with
  | succeeded fine => cases fine.symm.trans failed
  | absorbed _ _ _ fine => cases fine.symm.trans failed
  | usedUp _ retryable _ passed same =>
    cases passed.symm.trans failed
    exact .inl ⟨rfl, retryable⟩
  | unreadable failed' hopeless =>
    cases failed'.symm.trans failed
    exact .inr ⟨rfl, hopeless⟩

theorem Deferred.stays_fit
    (deferred : Deferred (modeOf s) s.immediateRetries.toNat id t mine (policyOf s given) reached
      changes e) (fits : t.Fits s given) : t.StaysFit s given changes := by
  generalize installed : policyOf s given = policy at deferred
  cases deferred with
  | absent attempted => exact attempted.stays_fit fits
  | resumed later pending clears => exact fits.stays_clears clears
  | passed fresh attempted unfailed => exact attempted.stays_fit fits
  | unreadable later fresh attempted failed hopeless passed => exact attempted.stays_fit fits
  | decided now attempted failed clears same =>
    have stays := attempted.stays_fit fits
    exact stays.append (stays.end.stays_clears clears)
  | postponed later fresh attempted failed retryable fine =>
    have stays := attempted.stays_fit fits
    rcases attempted.failed failed with ⟨rfl, _⟩ | ⟨_, hopeless⟩
    · refine stays.append (stays.end.stays_one ?_)
      exact stays.end.postponedDelay (canAbort_of_later later) (by simp [installed]) retryable
        (t.lookup_clear_self id)
    · cases retryable.symm.trans hopeless

theorem Deferred.few_attempts
    (deferred : Deferred (modeOf s) s.immediateRetries.toNat id t mine (policyOf s given) reached
      changes (.done p)) (fits : t.Fits s given) (later : modeOf s = .onNextDelivery)
    (fresh : t.pendingForward id = none) (failed : p.failure = some failure) :
    (t.changed changes).attempts id ≤ max s.immediateRetries.toNat 1 := by
  have before := fits.attempts_le (canAbort_of_later later) fresh
  have forgotten {t' : FailureTable} (gone : t'.lookup id = none) : t'.attempts id = 0 := by
    simp [FailureTable.attempts, gone]
  have attempt {changes : List TableChange} {p : Passage} {failure : Failure}
      (attempted : Attempted s.immediateRetries.toNat id t mine changes (.done p))
      (failed : p.failure = some failure) :
      (t.changed changes).attempts id ≤ max s.immediateRetries.toNat 1 := by
    rcases attempted.failed failed with ⟨rfl, _⟩ | ⟨rfl, _⟩
    · have gone : (t.change (.cleared id)).lookup id = none := t.lookup_clear_self id
      rw [FailureTable.changed_cons, FailureTable.changed_nil, forgotten gone]
      exact Nat.zero_le _
    · exact before
  generalize policyOf s given = policy at deferred
  cases deferred with
  | absent attempted => exact attempt attempted failed
  | resumed _ pending clears =>
    rcases t.lookup_changed_of_clears id clears with gone | same
    · rw [forgotten gone]
      exact Nat.zero_le _
    · rw [same]
      exact before
  | passed _ attempted unfailed => cases (unfailed p rfl).symm.trans failed
  | postponed _ _ attempted _ _ fine => cases fine.symm.trans failed
  | unreadable _ _ attempted failed' hopeless passed => exact attempt attempted failed'
  | decided now attempted failed' clears same => cases now.symm.trans later

theorem Delivered.stays_fit
    (delivered : Delivered (modeOf s) s.immediateRetries.toNat (policyOf s given) id t mine reached
      changes e) (fits : t.Fits s given) : t.StaysFit s given changes := by
  cases delivered with
  | resumed later pending clears => exact fits.stays_clears clears
  | passed fresh deferred unfailed => exact deferred.stays_fit fits
  | postponed later fresh deferred failed fine =>
    have stays := deferred.stays_fit fits
    refine stays.append (stays.end.stays_one ?_)
    exact stays.end.postponedForward (canAbort_of_later later)
      (deferred.few_attempts fits later fresh failed) _
  | forwarded now deferred failed clears =>
    have stays := deferred.stays_fit fits
    exact stays.append (stays.end.stays_clears clears)

end ways

namespace ReceivePipeline
variable {σ : Type} {s : Settings} {given : Option DelayPolicy} {own : List Stage}
  {p : ReceivePipeline}

theorem stays_fit (built : build s given own = .ok p)
    (alone : ∀ stage ∈ own, stage.LeavesAlone) (o : Outside σ) (ms : List Incoming)
    {w : World σ} (fits : w.table.Fits s given) :
    w.table.StaysFit s given (changesOf o p ms w) := by
  induction ms generalizing w with
  | nil => exact fits.stays_nil
  | cons m ms ih =>
    obtain ⟨e, delivered⟩ := delivered_invoke built alone o m w
    have stays := delivered.stays_fit fits
    have left := stays.end
    rw [← Flow.table_course] at left
    have rest := ih left
    rw [Flow.table_course] at rest
    exact stays.append rest

/-- In front of every change in a sequence of deliveries, and after the last one, all records fit;
and no attempt is counted beyond the largest number of 32 bits. -/
theorem records_keep_fit (built : build s given own = .ok p)
    (alone : ∀ stage ∈ own, stage.LeavesAlone)
    (bounded : s.immediateRetries.toNat < Whole.max32) (o : Outside σ) (outside : σ)
    (capacity : Nat) (ms : List Incoming) :
    let start : FailureTable := .ofCapacity capacity
    let changes := changesOf o p ms ⟨start, outside⟩
    (∀ before after, changes = before ++ after →
      ∀ id r, (start.changed before).lookup id = some r → r.Fits s given) ∧
    (deliverAll o p ms ⟨start, outside⟩).table = start.changed changes ∧
    ∀ before id failure toErrorQueue toDelay after,
      changes = before ++ .recorded id failure toErrorQueue toDelay :: after →
        (start.changed before).attempts id + 1 ≤ Whole.max32 := by
  intro start changes
  have empty : start.Fits s given := by
    intro id r known
    simp [start, FailureTable.lookup, FailureTable.ofCapacity] at known
  have stays : start.StaysFit s given changes := stays_fit built alone o ms empty
  refine ⟨stays, table_deliverAll o p ms ⟨start, outside⟩, ?_⟩
  intro before id failure toErrorQueue toDelay after split
  have counted := stays (before ++ [.recorded id failure toErrorQueue toDelay]) after
    (by simp [split])
  rw [FailureTable.changed_append] at counted
  have fit := counted id _ ((start.changed before).lookup_record_self id failure toErrorQueue toDelay)
  have attempts := (start.changed before).counted_attempts id failure toErrorQueue toDelay
  have most := fit.attempts_le
  have room : 2 ≤ Whole.max32 := by decide
  omega

theorem stumbling_records_keep_fit : ∃ p,
    build (.forAddress "orders") none (handlerStages [(0, "Billing")]) = .ok p ∧
    (∀ stage ∈ handlerStages [(0, "Billing")], stage.LeavesAlone) ∧
    (Settings.forAddress "orders").immediateRetries.toNat < Whole.max32 ∧
    let start : FailureTable := .ofCapacity 1
    let changes := changesOf Cast.stumbling.outside p [default, default] ⟨start, {}⟩
    changes.length = 2 ∧
    (∀ before after, changes = before ++ after →
      ∀ id r, (start.changed before).lookup id = some r → r.Fits (.forAddress "orders") none) ∧
    (deliverAll Cast.stumbling.outside p [default, default] ⟨start, {}⟩).table =
      start.changed changes ∧
    ∀ before id failure toErrorQueue toDelay after,
      changes = before ++ .recorded id failure toErrorQueue toDelay :: after →
        (start.changed before).attempts id + 1 ≤ Whole.max32 := by
  have built := build_ok (s := .forAddress "orders") rfl rfl none (handlerStages [(0, "Billing")])
  have alone := handlerStages_leaveAlone [(0, "Billing")]
  have bounded : (Settings.forAddress "orders").immediateRetries.toNat < Whole.max32 := by decide
  exact ⟨_, built, alone, bounded, rfl,
    records_keep_fit built alone bounded Cast.stumbling.outside {} 1 [default, default]⟩

end ReceivePipeline
end Redelivery
