/-! The headers of a message: texts under keys, kept in the order of the keys, one value per key.
Two header maps with the same value under every key are equal. -/
namespace Redelivery

def putEntry (key value : String) : List (String × String) → List (String × String)
  | [] => [(key, value)]
  | (k, v) :: rest =>
    if key < k then (key, value) :: (k, v) :: rest
    else if key = k then (key, value) :: rest
    else (k, v) :: putEntry key value rest

theorem mem_putEntry {key value : String} {e : String × String}
    {entries : List (String × String)} (h : e ∈ putEntry key value entries) :
    e = (key, value) ∨ e ∈ entries := by
  induction entries with
  | nil => simpa [putEntry] using h
  | cons head rest ih =>
    obtain ⟨k, v⟩ := head
    rw [putEntry] at h
    split at h
    · simpa using h
    · split at h
      · rcases List.mem_cons.1 h with h | h
        · exact .inl h
        · exact .inr (List.mem_cons_of_mem _ h)
      · rcases List.mem_cons.1 h with h | h
        · exact .inr (h ▸ List.mem_cons_self)
        · exact (ih h).imp_right (List.mem_cons_of_mem _)

theorem putEntry_sorted (key value : String) {entries : List (String × String)}
    (sorted : entries.Pairwise (·.1 < ·.1)) :
    (putEntry key value entries).Pairwise (·.1 < ·.1) := by
  induction entries with
  | nil => simp [putEntry]
  | cons head rest ih =>
    obtain ⟨k, v⟩ := head
    have below := List.pairwise_cons.1 sorted
    rw [putEntry]
    split
    · rename_i before
      refine List.pairwise_cons.2 ⟨fun e he => ?_, sorted⟩
      rcases List.mem_cons.1 he with rfl | he
      · exact before
      · exact String.lt_trans before (below.1 e he)
    · rename_i notBefore
      split
      · rename_i same
        subst same
        exact List.pairwise_cons.2 ⟨below.1, below.2⟩
      · rename_i other
        have after : k < key :=
          (String.not_lt.1 notBefore |> fun le => Decidable.byContradiction fun notAfter =>
            other (String.le_antisymm (String.not_lt.1 notAfter) le))
        refine List.pairwise_cons.2 ⟨fun e he => ?_, ih below.2⟩
        rcases mem_putEntry he with rfl | he
        · exact after
        · exact below.1 e he

structure Headers where
  entries : List (String × String)
  sorted : entries.Pairwise (·.1 < ·.1) := by decide
  deriving DecidableEq

namespace Headers

def empty : Headers := ⟨[], .nil⟩

instance : Inhabited Headers := ⟨empty⟩

def get? (h : Headers) (key : String) : Option String := h.entries.lookup key

def insert (h : Headers) (key value : String) : Headers :=
  ⟨putEntry key value h.entries, putEntry_sorted key value h.sorted⟩

def erase (h : Headers) (key : String) : Headers :=
  ⟨h.entries.filter (·.1 ≠ key), h.sorted.filter _⟩

def insertIfNew (h : Headers) (key value : String) : Headers :=
  if (h.get? key).isSome then h else h.insert key value

def ofList (pairs : List (String × String)) : Headers :=
  pairs.foldl (fun h e => h.insert e.1 e.2) empty

def retries : String := "NServiceBus.Retries"
def retriesTimestamp : String := "NServiceBus.Retries.Timestamp"
def immediateRetries : String := "NServiceBus.FLRetries"

def failedQueue : String := "NServiceBus.FailedQ"
def timeOfFailure : String := "NServiceBus.TimeOfFailure"
def exceptionType : String := "NServiceBus.ExceptionInfo.ExceptionType"
def exceptionMessage : String := "NServiceBus.ExceptionInfo.Message"
def exceptionSource : String := "NServiceBus.ExceptionInfo.Source"
def exceptionStackTrace : String := "NServiceBus.ExceptionInfo.StackTrace"

@[simp] theorem get?_empty (key : String) : empty.get? key = none := rfl

theorem lookup_cons (other k v : String) (rest : List (String × String)) :
    List.lookup other ((k, v) :: rest) = if other = k then some v else rest.lookup other := by
  rw [List.lookup_cons]
  by_cases h : other = k
  · rw [if_pos h, beq_iff_eq.2 h]
  · rw [if_neg h, beq_eq_false_iff_ne.2 h]

theorem lookup_putEntry (key value other : String) (entries : List (String × String)) :
    (putEntry key value entries).lookup other =
      if other = key then some value else entries.lookup other := by
  induction entries with
  | nil => rw [putEntry, lookup_cons]
  | cons head rest ih =>
    obtain ⟨k, v⟩ := head
    rw [putEntry]
    split
    · rw [lookup_cons]
    · split
      · rename_i same
        subst same
        simp only [lookup_cons]
        split <;> simp_all
      · rename_i different
        simp only [lookup_cons, ih]
        split
        · rename_i here
          rw [if_neg (fun h => different (h.symm.trans here))]
        · rfl

theorem lookup_filter_ne (key other : String) (entries : List (String × String)) :
    (entries.filter (·.1 ≠ key)).lookup other =
      if other = key then none else entries.lookup other := by
  induction entries with
  | nil => simp
  | cons head rest ih =>
    obtain ⟨k, v⟩ := head
    by_cases hk : k = key
    · subst hk
      rw [List.filter_cons_of_neg (by simp), ih, lookup_cons]
      split <;> simp_all
    · rw [List.filter_cons_of_pos (by simpa using hk), lookup_cons, lookup_cons, ih]
      split
      · rename_i here
        rw [if_neg (fun h => hk (here.symm.trans h))]
      · rfl

@[simp] theorem get?_insert (h : Headers) (key value other : String) :
    (h.insert key value).get? other = if other = key then some value else h.get? other :=
  lookup_putEntry key value other h.entries

@[simp] theorem get?_erase (h : Headers) (key other : String) :
    (h.erase key).get? other = if other = key then none else h.get? other :=
  lookup_filter_ne key other h.entries

end Headers
end Redelivery
