import Redelivery.Metrics

/-! What the counters of an endpoint show. A counter grows by the number of the measures that are
its own, so that each kind of notification is told apart by category, and so are the ends of
messages. -/
namespace Redelivery

theorem Category.name_inj {a b : Category} (same : a.name = b.name) : a = b := by
  cases a <;> cases b <;> first | rfl | exact absurd same (by decide)

namespace Series

def ofKind (endpoint : String) (kind : Notification.Kind) (category : Category) : Series :=
  ⟨kindName kind, [("endpoint", endpoint), ("category", category.name)]⟩

theorem kindName_inj {a b : Notification.Kind} (same : kindName a = kindName b) : a = b := by
  cases a <;> cases b <;> first | rfl | exact absurd same (by decide)

theorem kindName_other (kind : Notification.Kind) :
    processedName ≠ kindName kind ∧ durationName ++ "_count" ≠ kindName kind ∧
      criticalName ≠ kindName kind := by
  cases kind <;> decide

theorem ofKind_inj (endpoint : String) {kind kind' : Notification.Kind}
    {category category' : Category} :
    ofKind endpoint kind category = ofKind endpoint kind' category' ↔
      kind = kind' ∧ category = category' := by
  constructor
  · intro same
    simp only [ofKind, Series.mk.injEq, List.cons.injEq, Prod.mk.injEq, true_and, and_true] at same
    exact ⟨kindName_inj same.1, Category.name_inj same.2⟩
  · rintro ⟨rfl, rfl⟩
    rfl

theorem failed_inj (endpoint : String) {category category' : Category} :
    failed endpoint category = failed endpoint category' ↔ category = category' := by
  constructor
  · intro same
    simp only [failed, Series.mk.injEq, List.cons.injEq, Prod.mk.injEq, true_and, and_true] at same
    exact Category.name_inj same
  · rintro rfl
    rfl

end Series

namespace Measure

def isOf (kind : Notification.Kind) (category : Category) : Measure → Bool
  | .notified n => n.kind = kind ∧ n.failure.category = category
  | _ => false

variable (endpoint : String) (kind : Notification.Kind) (category : Category)

theorem count_ofKind (measure : Measure) :
    (measure.series endpoint).count (.ofKind endpoint kind category) =
      if measure.isOf kind category then 1 else 0 := by
  obtain ⟨processed, duration, critical⟩ := Series.kindName_other kind
  cases measure with
  | notified n =>
    have same : Series.ofKind endpoint n.kind n.failure.category = .ofKind endpoint kind category ↔
        n.kind = kind ∧ n.failure.category = category := Series.ofKind_inj endpoint
    have own : Series.ofNotification endpoint n = .ofKind endpoint n.kind n.failure.category := rfl
    simp [series, isOf, own, List.count_singleton, same]
  | succeeded =>
    simp [series, isOf, Series.ofKind, Series.succeeded, Series.measured, processed, duration]
  | failed other => simp [series, isOf, Series.ofKind, Series.failed, processed]
  | critical => simp [series, isOf, Series.ofKind, Series.critical, critical]

def ending? (endpoint : String) : Measure → Option Series
  | .succeeded => some (.succeeded endpoint)
  | .failed category => some (.failed endpoint category)
  | _ => none

theorem count_ending {e : Measure} {t : Series} (own : e.ending? endpoint = some t)
    (measure : Measure) :
    (measure.series endpoint).count t = if measure == e then 1 else 0 := by
  have named : t.name = Series.processedName := by
    cases e <;> cases own <;> rfl
  cases measure with
  | notified n =>
    have other : Series.ofNotification endpoint n ≠ t := fun same =>
      (Series.kindName_other n.kind).1 (named.symm.trans (congrArg Series.name same.symm))
    cases e <;> cases own <;> simp [series, other]
  | critical =>
    have other : Series.critical ≠ t := fun same =>
      absurd ((congrArg Series.name same).trans named) (by decide)
    cases e <;> cases own <;> simp [series, other]
  | succeeded =>
    have differs : Series.durationName ++ "_count" ≠ Series.processedName := by decide
    have other : Series.measured endpoint ≠ t := fun same =>
      differs ((congrArg Series.name same).trans named)
    cases e with
    | succeeded =>
      cases own
      simp [series, other]
    | failed category =>
      cases own
      have unequal : Series.succeeded endpoint ≠ .failed endpoint category := by
        simp [Series.succeeded, Series.failed]
      simp [series, other, unequal]
    | _ => cases own
  | failed category =>
    cases e with
    | succeeded =>
      cases own
      have unequal : Series.failed endpoint category ≠ .succeeded endpoint := by
        simp [Series.succeeded, Series.failed]
      simp [series, unequal]
    | failed category' =>
      cases own
      simp [series, Series.failed_inj, List.count_singleton]
    | _ => cases own

end Measure

namespace Counters

def counting (c : Counters) (endpoint : String) (measures : List Measure) : Counters :=
  (measures.flatMap (Measure.series endpoint)).foldl increment c

theorem value_increment (c : Counters) (s t : Series) :
    (c.increment s).value t = c.value t + if s = t then 1 else 0 := by
  induction c with
  | nil =>
    by_cases same : s = t
    · simp [increment, value, same]
    · simp [increment, value, List.lookup_cons, beq_false_of_ne (Ne.symm same), same]
  | cons e rest ih =>
    obtain ⟨u, n⟩ := e
    simp only [value] at ih
    by_cases here : u = s
    · by_cases same : s = t
      · simp [increment, value, here, same]
      · simp [increment, value, here, same, List.lookup_cons, beq_false_of_ne (Ne.symm same)]
    · simp only [increment, if_neg here, value, List.lookup_cons]
      by_cases found : t = u
      · simp [found, Ne.symm here]
      · simpa [beq_false_of_ne found] using ih

theorem value_foldl_increment (c : Counters) (raised : List Series) (t : Series) :
    (raised.foldl increment c).value t = c.value t + raised.count t := by
  induction raised generalizing c with
  | nil => rfl
  | cons s rest ih =>
    rw [List.foldl_cons, ih, value_increment, List.count_cons, Nat.add_assoc]
    simp only [beq_iff_eq]
    rw [Nat.add_comm (rest.count t)]

/-- A counter that some measures raise by one and others leave alone. -/
theorem value_counting {endpoint : String} {t : Series} {own : Measure → Bool}
    (each : ∀ measure, (measure.series endpoint).count t = if own measure then 1 else 0)
    (c : Counters) (measures : List Measure) :
    (c.counting endpoint measures).value t = c.value t + measures.countP own := by
  rw [counting, value_foldl_increment]
  congr 1
  induction measures with
  | nil => rfl
  | cons measure rest ih =>
    rw [List.flatMap_cons, List.count_append, ih, each, List.countP_cons, Nat.add_comm]

theorem value_counting_ofKind (c : Counters) (endpoint : String) (measures : List Measure)
    (kind : Notification.Kind) (category : Category) :
    (c.counting endpoint measures).value (.ofKind endpoint kind category) =
      c.value (.ofKind endpoint kind category) + measures.countP (·.isOf kind category) :=
  value_counting (Measure.count_ofKind endpoint kind category) c measures

end Counters
end Redelivery
