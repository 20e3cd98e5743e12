import Mathlib.Data.List.Perm.Subperm
import Redelivery.Proofs.Delivery.Separation

/-! What deliveries do to the table of failures, change by change. Each stage of recoverability
keeps its books under the id the message came in with; the ways of one delivery are told apart by
the changes they make, and the table after any deliveries is the one their changes lead to. -/
namespace Redelivery

inductive TableChange where
  | recorded (id : String) (failure : Failure) (toErrorQueue toDelay : Bool)
  | cleared (id : String)
  deriving DecidableEq

def TableChange.id : TableChange → String
  | .recorded id .. => id
  | .cleared id => id

namespace FailureTable

def change (t : FailureTable) : TableChange → FailureTable
  | .recorded id failure toErrorQueue toDelay => (t.record id failure toErrorQueue toDelay).1
  | .cleared id => t.clear id

def dropped? (t : FailureTable) : TableChange → Option String
  | .recorded id failure toErrorQueue toDelay => (t.record id failure toErrorQueue toDelay).2
  | .cleared _ => none

def changed (t : FailureTable) (changes : List TableChange) : FailureTable :=
  changes.foldl change t

def put (t : FailureTable) (id : String) (row : FailureRow) : FailureTable :=
  { t with rows := t.rows.insert id row, clock := t.clock + 1 }

section changes
variable (t : FailureTable) (id other : String)

@[simp] theorem changed_nil : t.changed [] = t := rfl

@[simp] theorem changed_cons (change : TableChange) (rest : List TableChange) :
    t.changed (change :: rest) = (t.change change).changed rest := rfl

@[simp] theorem changed_append (first later : List TableChange) :
    t.changed (first ++ later) = (t.changed first).changed later := List.foldl_append

theorem lookup_evict (keep : String) :
    (t.evict keep).1.lookup other = t.lookup other ∨
      (t.evict keep).1.lookup other = none ∧ (t.evict keep).2 = some other := by
  unfold evict
  split
  · exact .inl rfl
  · split
    · exact .inl rfl
    · rename_i id stamp chosen
      rw [lookup_clear]
      by_cases same : other = id
      · exact .inr ⟨if_pos same, congrArg some same.symm⟩
      · exact .inl (if_neg same)

theorem record_cases (failure : Failure) (toErrorQueue toDelay : Bool) :
    ∃ row, t.record id failure toErrorQueue toDelay = (t.put id row, none) ∨
      t.record id failure toErrorQueue toDelay = (t.put id row).evict id := by
  unfold record
  cases t.lookup id with
  | some r => exact ⟨_, .inl rfl⟩
  | none => exact ⟨_, .inr rfl⟩

theorem lookup_put_other (row : FailureRow) (different : other ≠ id) :
    (t.put id row).lookup other = t.lookup other := by
  simp [lookup, put, Std.ExtTreeMap.getElem?_insert, Ne.symm different]

/-- A change for one message takes at most its record away from another one. -/
theorem lookup_change_other {change : TableChange} (different : other ≠ change.id) :
    (t.change change).lookup other = t.lookup other ∨
      (t.change change).lookup other = none ∧ t.dropped? change = some other := by
  cases change with
  | cleared id =>
    left
    rw [FailureTable.change, lookup_clear]
    exact if_neg different
  | recorded id failure toErrorQueue toDelay =>
    have untouched (row : FailureRow) := t.lookup_put_other id other row different
    obtain ⟨row, same | same⟩ := t.record_cases id failure toErrorQueue toDelay
    · left
      rw [FailureTable.change, same, untouched]
    · rw [FailureTable.change, dropped?, same, ← untouched row]
      exact lookup_evict (t.put id row) other id

theorem capacity_change (change : TableChange) : (t.change change).capacity = t.capacity := by
  cases change with
  | cleared id => rfl
  | recorded id failure toErrorQueue toDelay =>
    obtain ⟨row, same | same⟩ := t.record_cases id failure toErrorQueue toDelay
    · rw [FailureTable.change, same]
      rfl
    · rw [FailureTable.change, same, evict]
      split
      · rfl
      · split <;> rfl

theorem lookup_changed_other {changes : List TableChange}
    (apart : ∀ change ∈ changes, change.id ≠ other) :
    (t.changed changes).lookup other = t.lookup other ∨
      (t.changed changes).lookup other = none := by
  induction changes generalizing t with
  | nil => exact .inl rfl
  | cons change changes ih =>
    have later := ih (t.change change) fun c member => apart c (List.mem_cons_of_mem _ member)
    rcases t.lookup_change_other other (apart change List.mem_cons_self).symm with kept | ⟨gone, _⟩
    · rwa [kept] at later
    · rw [gone, or_self] at later
      exact .inr later

theorem lookup_changed_of_clears {changes : List TableChange}
    (clears : ∀ change ∈ changes, change = .cleared id) :
    (t.changed changes).lookup id = none ∨ t.changed changes = t := by
  induction changes generalizing t with
  | nil => exact .inr rfl
  | cons change changes ih =>
    have cleared := clears change List.mem_cons_self
    subst cleared
    rcases ih (t.clear id) fun other member => clears other (List.mem_cons_of_mem _ member) with
      gone | same
    · exact .inl gone
    · left
      rw [changed_cons, FailureTable.change, same, lookup_clear_self]

end changes

section room
variable {t : FailureTable} {known : List String}

structure Holds (t : FailureTable) (known : List String) : Prop where
  rows : ∀ id ∈ t.rows, id ∈ known
  room : known.length ≤ t.capacity

theorem Holds.start {capacity : Nat} (room : known.length ≤ max capacity 1) :
    (ofCapacity capacity).Holds known where
  rows _ member := absurd member Std.ExtTreeMap.not_mem_empty
  room := room

theorem Holds.size (holds : t.Holds known) : t.size ≤ t.capacity := by
  have within : t.rows.keys ⊆ known := fun id member =>
    holds.rows id (Std.ExtTreeMap.mem_keys.1 member)
  have few : t.rows.keys.length ≤ known.length :=
    (Std.ExtTreeMap.nodup_keys.subperm within).length_le
  rw [Std.ExtTreeMap.length_keys] at few
  exact Nat.le_trans few holds.room

theorem Holds.change (holds : t.Holds known) {change : TableChange} (about : change.id ∈ known) :
    (t.change change).Holds known ∧ t.dropped? change = none := by
  cases change with
  | cleared id =>
    refine ⟨⟨fun other member => holds.rows other ?_, holds.room⟩, rfl⟩
    exact Std.ExtTreeMap.mem_of_mem_erase member
  | recorded id failure toErrorQueue toDelay =>
    have put (row : FailureRow) : (t.put id row).Holds known := by
      refine ⟨fun other member => ?_, holds.room⟩
      rcases Std.ExtTreeMap.mem_insert.1 member with same | before
      · exact (Std.compare_eq_iff_eq.1 same) ▸ about
      · exact holds.rows other before
    simp only [FailureTable.change, dropped?]
    obtain ⟨row, same | same⟩ := t.record_cases id failure toErrorQueue toDelay
    · rw [same]
      exact ⟨put row, rfl⟩
    · rw [same, evict, if_pos (put row).size]
      exact ⟨put row, rfl⟩

theorem Holds.changed (holds : t.Holds known) {changes : List TableChange}
    (about : ∀ change ∈ changes, change.id ∈ known) : (t.changed changes).Holds known := by
  induction changes generalizing t with
  | nil => exact holds
  | cons change changes ih =>
    have later := (holds.change (about change List.mem_cons_self)).1
    exact ih later fun c member => about c (List.mem_cons_of_mem _ member)

end room
end FailureTable

def Request.change? : Request → Option TableChange
  | .record id failure toErrorQueue toDelay => some (.recorded id failure toErrorQueue toDelay)
  | .clear id => some (.cleared id)
  | _ => none

namespace Flow
variable {σ α β : Type} (o : Outside σ) (w : World σ)

def changes (o : Outside σ) : Flow α → World σ → List TableChange
  | .done _, _ => []
  | .panicked _, _ => []
  | .ask r next, w =>
    r.change?.toList ++ changes o (next (o.answer w r).1) (o.answer w r).2.1

theorem table_answer (r : Request) :
    (o.answer w r).2.1.table = w.table.changed r.change?.toList := by
  cases r <;> rfl

theorem table_course (x : Flow α) :
    (x.course o w).world.table = w.table.changed (x.changes o w) := by
  induction x generalizing w with
  | done a => rfl
  | panicked text => rfl
  | ask r next ih =>
    rw [course_ask, changes, FailureTable.changed_append, ← table_answer]
    exact ih _ _

theorem changes_pure (a : α) : (pure a : Flow α).changes o w = [] := rfl

theorem changes_lookup (id : String) (f : Option FailureRecord → Flow α) :
    (lookup id >>= f).changes o w = (f (w.table.lookup id)).changes o w := rfl

theorem changes_bind (x : Flow α) (f : α → Flow β) :
    (x >>= f).changes o w = x.changes o w ++
      match x.course o w with
      | ⟨.done a, w', _⟩ => (f a).changes o w'
      | ⟨.panicked _, _, _⟩ => [] := by
  change (x.bind f).changes o w = _
  induction x generalizing w with
  | done a => rfl
  | panicked text => rfl
  | ask r next ih =>
    rw [bind, changes, changes, course_ask, ih, List.append_assoc]
    generalize (next (o.answer w r).1).course o (o.answer w r).2.1 = first
    obtain ⟨ended, w', ds⟩ := first
    cases ended <;> rfl

theorem changes_of_only {allowed : Request → Prop} {P : TableChange → Prop}
    (each : ∀ r change, allowed r → r.change? = some change → P change) {x : Flow α}
    (only : x.only allowed) : ∀ change ∈ x.changes o w, P change := by
  induction x generalizing w with
  | done a => simp [changes]
  | panicked text => simp [changes]
  | ask r next ih =>
    intro change member
    rcases List.mem_append.1 member with here | later
    · exact each r change only.1 (Option.mem_toList.1 here)
    · exact ih _ _ (only.2 _) change later

theorem changes_of_leavesAlone {x : Flow α} (alone : x.only Request.leavesAlone) :
    x.changes o w = [] := by
  apply List.eq_nil_iff_forall_not_mem.2
  intro change member
  refine changes_of_only o w (P := fun _ => False) ?_ alone change member
  intro r change permitted changes
  cases r with
  | record id failure toErrorQueue toDelay => exact permitted
  | clear id => exact permitted
  | _ => cases changes

end Flow

section clears

def Request.clearsAtMost (id : String) : Request → Prop
  | .record .. => False
  | .clear other => other = id
  | _ => True

variable {σ : Type} {o : Outside σ} {w : World σ} {id : String} {failure : Failure} {c : Context}

theorem changes_of_clearsAtMost {α : Type} {x : Flow α} (only : x.only (Request.clearsAtMost id)) :
    ∀ change ∈ x.changes o w, change = .cleared id := by
  refine Flow.changes_of_only o w ?_ only
  intro r change permitted changes
  cases r with
  | record other failure toErrorQueue toDelay => exact permitted.elim
  | clear other =>
    cases changes
    exact congrArg TableChange.cleared permitted
  | _ => cases changes

theorem clears_grantedDelay (policy : DelayPolicy) (failure : Failure) (m : Incoming) :
    (Stage.grantedDelay policy failure m).only (Request.clearsAtMost id) := by
  unfold Stage.grantedDelay
  split
  · refine Flow.only_bind ?logs fun _ => ?_
    case logs =>
      induction m.headers.retryWarnings with
      | nil => exact trivial
      | cons entry entries ih => exact ⟨trivial, fun _ => ih⟩
    exact Flow.only_bind ⟨trivial, fun _ => trivial⟩ fun _ => trivial
  · exact trivial

theorem clears_deferMessage (failure : Failure) (retry : Nat) (delay : Duration) (c : Context) :
    (Stage.deferMessage failure retry delay c).only (Request.clearsAtMost c.message.id) := by
  refine ⟨trivial, fun time => ⟨trivial, fun answer => ?_⟩⟩
  cases answer with
  | some dispatchFailure => exact ⟨trivial, fun _ => trivial⟩
  | none => exact ⟨rfl, fun _ => ⟨trivial, fun _ => ⟨trivial, fun _ => trivial⟩⟩⟩

theorem clears_delayedRetriesUsedUp (failure : Failure) (c : Context) :
    (Stage.delayedRetriesUsedUp failure c).only (Request.clearsAtMost id) := by
  unfold Stage.delayedRetriesUsedUp
  split
  · exact ⟨trivial, fun _ => trivial⟩
  · exact trivial

theorem clears_decide (mode : DecisionMode) (policy : DelayPolicy) (failure : Failure)
    (c : Context) :
    (mode.decide policy failure c).only (Request.clearsAtMost c.message.id) := by
  rw [DecisionMode.decide_eq]
  refine Flow.only_bind (clears_grantedDelay policy failure c.message) fun granted => ?_
  cases granted with
  | some grant => exact clears_deferMessage failure grant.1 grant.2 c
  | none =>
    have used : (Stage.delayedRetriesUsedUp failure c).only (Request.clearsAtMost c.message.id) :=
      clears_delayedRetriesUsedUp failure c
    cases mode with
    | onNextDelivery => exact ⟨rfl, fun _ => used⟩
    | atOnce => exact used

theorem clears_forwardToErrorQueue (errorQueue : String) (failure : Failure) (c : Context) :
    (Stage.forwardToErrorQueue errorQueue failure c).only
      (Request.clearsAtMost c.message.id) := by
  refine ⟨trivial, fun time => ⟨trivial, fun answer => ?_⟩⟩
  cases answer with
  | some dispatchFailure => exact ⟨trivial, fun _ => trivial⟩
  | none => exact ⟨rfl, fun _ => ⟨trivial, fun _ => ⟨trivial, fun _ => trivial⟩⟩⟩

end clears
end Redelivery
