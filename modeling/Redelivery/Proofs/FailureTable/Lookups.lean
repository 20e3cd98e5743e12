import Redelivery.FailureTable

/-! What the table of failures says about one message after each change. A message keeps the
record that was just made for it, whatever row has to go for it. -/
namespace Redelivery.FailureTable

def attempts (t : FailureTable) (id : String) : Nat := ((t.lookup id).map (·.attempts)).getD 0

/-- The failure that the next delivery of a message forwards to the error queue. -/
def pendingForward (t : FailureTable) (id : String) : Option Failure :=
  match t.lookup id with
  | some ⟨_, failure, true, _⟩ => some failure
  | _ => none

def pendingDelay (t : FailureTable) (id : String) : Option Failure :=
  match t.lookup id with
  | some ⟨_, failure, _, true⟩ => some failure
  | _ => none

def counted (known : Option FailureRecord) (failure : Failure) (toErrorQueue toDelay : Bool) :
    FailureRecord :=
  match known with
  | some r => again r failure toErrorQueue toDelay
  | none => ⟨1, failure, toErrorQueue, toDelay⟩

theorem lookup_clear (t : FailureTable) (id other : String) :
    (t.clear id).lookup other = if other = id then none else t.lookup other := by
  simp only [lookup, clear, Std.ExtTreeMap.getElem?_erase, Std.compare_eq_iff_eq]
  by_cases same : id = other
  · simp [same]
  · simp [same, Ne.symm same]

@[simp] theorem lookup_clear_self (t : FailureTable) (id : String) :
    (t.clear id).lookup id = none := by
  simp [lookup_clear]

theorem older_eq (keep : String) (best : Option (String × Nat)) (id : String) (row : FailureRow) :
    older keep best id row = best ∨ older keep best id row = some (id, row.stamp) ∧ id ≠ keep := by
  by_cases same : id = keep
  · simp [older, same]
  · cases best with
    | none => simp [older, same]
    | some other => by_cases isOlder : row.stamp < other.2 <;> simp [older, same, isOlder]

theorem oldest_ne {t : FailureTable} {keep : String} {found : String × Nat}
    (chosen : t.oldest keep = some found) : found.1 ≠ keep := by
  have among (rows : List (String × FailureRow)) (best : Option (String × Nat))
      (known : ∀ found, best = some found → found.1 ≠ keep) :
      ∀ found, rows.foldl (fun best row => older keep best row.1 row.2) best = some found →
        found.1 ≠ keep := by
    induction rows generalizing best with
    | nil => exact known
    | cons row rows ih =>
      refine ih _ fun found h => ?_
      rcases older_eq keep best row.1 row.2 with same | ⟨new, other⟩
      · exact known found (same ▸ h)
      · cases new.symm.trans h
        exact other
  rw [oldest, Std.ExtTreeMap.foldl_eq_foldl_toList] at chosen
  exact among _ none (fun _ h => by cases h) found chosen

/-- A message never loses its record to its own eviction. -/
theorem lookup_evict_self (t : FailureTable) (keep : String) :
    (t.evict keep).1.lookup keep = t.lookup keep := by
  rw [evict]
  split
  · rfl
  · split
    · rfl
    · rename_i id stamp chosen
      have other : keep ≠ id := fun h => oldest_ne chosen h.symm
      rw [lookup_clear, if_neg other]

theorem lookup_record_self (t : FailureTable) (id : String) (failure : Failure)
    (toErrorQueue toDelay : Bool) :
    (t.record id failure toErrorQueue toDelay).1.lookup id =
      some (counted (t.lookup id) failure toErrorQueue toDelay) := by
  rw [record]
  split
  · rename_i r known
    rw [known]
    simp [lookup, counted]
  · rename_i known
    rw [lookup_evict_self, known]
    simp [lookup, counted]

section recorded
variable (t : FailureTable) (id : String) (failure : Failure) (toErrorQueue toDelay : Bool)

theorem record_self :
    (t.record id failure toErrorQueue toDelay).1.lookup id =
      some ⟨t.attempts id + 1, failure, toErrorQueue, toDelay⟩ := by
  rw [attempts, lookup_record_self]
  cases t.lookup id with
  | none => rfl
  | some r => rfl

theorem attempts_record_self :
    (t.record id failure toErrorQueue toDelay).1.attempts id = t.attempts id + 1 := by
  rw [attempts, record_self]
  rfl

theorem pendingForward_record_self :
    (t.record id failure toErrorQueue toDelay).1.pendingForward id =
      if toErrorQueue then some failure else none := by
  rw [pendingForward, lookup_record_self]
  cases t.lookup id <;> cases toErrorQueue <;> rfl

theorem pendingDelay_record_self :
    (t.record id failure toErrorQueue toDelay).1.pendingDelay id =
      if toDelay then some failure else none := by
  rw [pendingDelay, lookup_record_self]
  cases t.lookup id <;> cases toDelay <;> rfl

end recorded

end Redelivery.FailureTable
