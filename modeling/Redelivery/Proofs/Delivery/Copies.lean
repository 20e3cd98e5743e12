import Redelivery.Proofs.Delivery.Forwarding

/-! What copies of a message carry. Headers are determined by their values, so a copy for the error
queue is the same whether or not the number of retries was taken off the message before, and the
number of a delayed retry reads back from the copy it was written on. -/
namespace Redelivery

theorem lookup_of_below {key : String} {entries : List (String × String)}
    (below : ∀ e ∈ entries, key < e.1) : entries.lookup key = none := by
  induction entries with
  | nil => rfl
  | cons e rest ih =>
    obtain ⟨k, v⟩ := e
    have other : key ≠ k := by
      rintro rfl
      exact String.lt_irrefl _ (below _ List.mem_cons_self)
    rw [Headers.lookup_cons, if_neg other]
    exact ih fun e member => below e (List.mem_cons_of_mem _ member)

theorem first_key_le {k k' v v' : String} {rest rest' : List (String × String)}
    (sorted' : ∀ e ∈ rest', k' < e.1)
    (same : ((k, v) :: rest).lookup k = ((k', v') :: rest').lookup k) : k' ≤ k := by
  refine String.not_lt.1 fun before => ?_
  have below : ∀ e ∈ (k', v') :: rest', k < e.1 := by
    intro e member
    rcases List.mem_cons.1 member with rfl | member
    · exact before
    · exact String.lt_trans before (sorted' e member)
  rw [lookup_of_below below, Headers.lookup_cons, if_pos rfl] at same
  cases same

theorem entries_ext {a b : List (String × String)} (sortedA : a.Pairwise (·.1 < ·.1))
    (sortedB : b.Pairwise (·.1 < ·.1)) (same : ∀ key, a.lookup key = b.lookup key) : a = b := by
  induction a generalizing b with
  | nil =>
    cases b with
    | nil => rfl
    | cons e rest =>
      have here := same e.1
      rw [Headers.lookup_cons, if_pos rfl] at here
      cases here
  | cons e rest ih =>
    cases b with
    | nil =>
      have here := same e.1
      rw [Headers.lookup_cons, if_pos rfl] at here
      cases here
    | cons e' rest' =>
      obtain ⟨k, v⟩ := e
      obtain ⟨k', v'⟩ := e'
      rw [List.pairwise_cons] at sortedA sortedB
      have keys : k = k' := String.le_antisymm (first_key_le sortedA.1 (same k').symm)
        (first_key_le sortedB.1 (same k))
      subst keys
      have values := same k
      simp only [Headers.lookup_cons, if_true, Option.some.injEq] at values
      subst values
      congr 1
      refine ih sortedA.2 sortedB.2 fun key => ?_
      by_cases here : key = k
      · subst here
        rw [lookup_of_below sortedA.1, lookup_of_below sortedB.1]
      · have there := same key
        simpa only [Headers.lookup_cons, if_neg here] using there

theorem Headers.ext_get? {a b : Headers} (same : ∀ key, a.get? key = b.get? key) : a = b := by
  obtain ⟨entriesA, sortedA⟩ := a
  obtain ⟨entriesB, sortedB⟩ := b
  have equal : entriesA = entriesB := entries_ext sortedA sortedB same
  subst equal
  rfl

theorem Headers.get?_insertIfNew (h : Headers) (key value other : String) :
    (h.insertIfNew key value).get? other =
      if (h.get? key).isNone ∧ other = key then some value else h.get? other := by
  unfold Headers.insertIfNew
  cases known : h.get? key with
  | none => simp
  | some old => simp

def Failure.stamps (failure : Failure) (failedQueue : String) (time : Instant) :
    List (String × String) :=
  (Headers.timeOfFailure, time.wireText) :: (Headers.failedQueue, failedQueue) ::
    (failure.stage?.map fun stage => (Headers.exceptionSource, stage)).toList ++
    [(Headers.exceptionStackTrace, failure.stackTrace), (Headers.exceptionMessage, failure.text),
      (Headers.exceptionType, failure.exceptionType)]

theorem Headers.get?_stampFailure (h : Headers) (failure : Failure) (failedQueue : String)
    (time : Instant) (key : String) :
    (h.stampFailure failure failedQueue time).get? key =
      ((failure.stamps failedQueue time).lookup key).or (h.get? key) := by
  have lookup (k v : String) (rest : List (String × String)) :
      (List.lookup key ((k, v) :: rest)).or (h.get? key) =
        if key = k then some v else (rest.lookup key).or (h.get? key) := by
    rw [Headers.lookup_cons]
    split <;> rfl
  simp only [Headers.stampFailure, Failure.stamps]
  cases failure.stage? <;>
    simp only [Option.map_none, Option.map_some, Option.toList_none, Option.toList_some,
      List.cons_append, List.nil_append, Headers.get?_insert, lookup, List.lookup_nil, Option.none_or]

namespace Incoming

theorem faulted_removeHeader (m : Incoming) (failure : Failure) (failedQueue : String)
    (time : Instant) :
    (m.removeHeader Headers.retries).faulted failure failedQueue time =
      m.faulted failure failedQueue time := by
  have headers : ((m.headers.erase Headers.retries).stampFailure failure failedQueue time).erase
      Headers.retries = (m.headers.stampFailure failure failedQueue time).erase Headers.retries := by
    apply Headers.ext_get?
    intro key
    rw [Headers.get?_erase, Headers.get?_erase]
    split
    · rfl
    · rename_i other
      simp only [Headers.stampFailure, Headers.get?_insert]
      cases failure.stage? <;> simp [other]
  simp only [faulted, revert, removeHeader]
  rw [headers]

theorem get?_faulted (m : Incoming) (failure : Failure) (failedQueue : String) (time : Instant)
    (key : String) :
    (m.faulted failure failedQueue time).headers.get? key =
      if key = Headers.retries then none
      else ((failure.stamps failedQueue time).lookup key).or (m.headers.get? key) := by
  simp only [faulted, revert, Headers.get?_erase, Headers.get?_stampFailure]

end Incoming

end Redelivery
