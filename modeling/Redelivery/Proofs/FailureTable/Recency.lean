import Mathlib.Data.List.Induction
import Mathlib.Data.List.Nodup
import Redelivery.Proofs.FailureTable.Changes

/-! The table of failures as a list of messages, the one whose failure was recorded last at the
end. Making room drops the head of the list. The table has no such order: it has stamps, and looks
for the least one. Both agree because no two rows have one stamp and the clock is past all of
them, so the rows in the order of their stamps are the list. -/
namespace Redelivery

/-- The messages that have a record, the one recorded last at the end. -/
structure RecencyList where
  entries : List (String × FailureRecord) := []
  capacity : Nat

namespace RecencyList

def ofCapacity (capacity : Nat) : RecencyList := { capacity := max capacity 1 }

def size (l : RecencyList) : Nat := l.entries.length

def lookup (l : RecencyList) (id : String) : Option FailureRecord := l.entries.lookup id

def clear (l : RecencyList) (id : String) : RecencyList :=
  { l with entries := l.entries.filter (·.1 ≠ id) }

/-- A known message moves to the end; a new one goes there, and the first one leaves if the list
is now too long. -/
def record (l : RecencyList) (id : String) (failure : Failure) (toErrorQueue toDelay : Bool) :
    RecencyList × Option String :=
  match l.lookup id with
  | some r =>
    ({ l with entries := (l.clear id).entries ++
        [(id, FailureTable.again r failure toErrorQueue toDelay)] }, none)
  | none =>
    let longer := l.entries ++ [(id, ⟨1, failure, toErrorQueue, toDelay⟩)]
    if longer.length ≤ l.capacity then ({ l with entries := longer }, none)
    else ({ l with entries := longer.tail }, longer.head?.map (·.1))

end RecencyList

inductive TableUse where
  | made (change : TableChange)
  | asked (id : String)
  deriving DecidableEq

inductive TableAnswer where
  | dropped (id : Option String)
  | found (record : Option FailureRecord)
  deriving DecidableEq

def TableUse.isRecord : TableUse → Bool
  | .made (.recorded ..) => true
  | _ => false

namespace FailureTable

def use (t : FailureTable) : TableUse → FailureTable × TableAnswer
  | .made change => (t.change change, .dropped (t.dropped? change))
  | .asked id => (t, .found (t.lookup id))

def used (t : FailureTable) (uses : List TableUse) : FailureTable :=
  uses.foldl (fun t use => (t.use use).1) t

def answers (t : FailureTable) : List TableUse → List (TableAnswer × Nat)
  | [] => []
  | use :: rest => ((t.use use).2, (t.use use).1.size) :: answers (t.use use).1 rest

end FailureTable

namespace RecencyList

def use (l : RecencyList) : TableUse → RecencyList × TableAnswer
  | .made (.recorded id failure toErrorQueue toDelay) =>
    let (l', dropped) := l.record id failure toErrorQueue toDelay
    (l', .dropped dropped)
  | .made (.cleared id) => (l.clear id, .dropped none)
  | .asked id => (l, .found (l.lookup id))

def used (l : RecencyList) (uses : List TableUse) : RecencyList :=
  uses.foldl (fun l use => (l.use use).1) l

def answers (l : RecencyList) : List TableUse → List (TableAnswer × Nat)
  | [] => []
  | use :: rest => ((l.use use).2, (l.use use).1.size) :: answers (l.use use).1 rest

theorem capacity_use (l : RecencyList) (use : TableUse) :
    (l.use use).1.capacity = l.capacity := by
  cases use with
  | asked id => rfl
  | made change =>
    cases change with
    | cleared id => rfl
    | recorded id failure toErrorQueue toDelay =>
      simp only [RecencyList.use, record]
      split
      · rfl
      · split <;> rfl

theorem capacity_used (l : RecencyList) (uses : List TableUse) :
    (l.used uses).capacity = l.capacity := by
  induction uses generalizing l with
  | nil => rfl
  | cons use uses ih => exact (ih _).trans (l.capacity_use use)

end RecencyList

namespace FailureTable

section order
variable {t : FailureTable} {rows : List (String × FailureRow)}

structure InOrder (t : FailureTable) (rows : List (String × FailureRow)) : Prop where
  same : ∀ id row, (id, row) ∈ rows ↔ t.rows[id]? = some row
  distinct : (rows.map (·.1)).Nodup
  ordered : rows.Pairwise fun a b => a.2.stamp < b.2.stamp
  past : ∀ entry ∈ rows, entry.2.stamp < t.clock

theorem InOrder.empty (capacity : Nat) : (ofCapacity capacity).InOrder [] where
  same id row := by simp [ofCapacity]
  distinct := List.nodup_nil
  ordered := List.Pairwise.nil
  past _ member := absurd member List.not_mem_nil

theorem InOrder.clear (order : t.InOrder rows) (id : String) :
    (t.clear id).InOrder (rows.filter (·.1 ≠ id)) where
  same other row := by
    rw [List.mem_filter, order.same, FailureTable.clear, Std.ExtTreeMap.getElem?_erase]
    by_cases same : id = other
    · simp [same]
    · simp [same, Ne.symm same]
  distinct := order.distinct.sublist (List.filter_sublist.map _)
  ordered := order.ordered.filter _
  past entry member := order.past entry (List.mem_of_mem_filter member)

theorem InOrder.put (order : t.InOrder rows) (id : String) (r : FailureRecord) :
    (t.put id ⟨r, t.clock⟩).InOrder (rows.filter (·.1 ≠ id) ++ [(id, ⟨r, t.clock⟩)]) where
  same other row := by
    rw [List.mem_append, (order.clear id).same, FailureTable.clear, FailureTable.put,
      Std.ExtTreeMap.getElem?_erase, Std.ExtTreeMap.getElem?_insert]
    by_cases same : id = other
    · simp [same, eq_comm]
    · simp [same, Ne.symm same]
  distinct := by
    rw [List.map_append, List.nodup_append]
    refine ⟨(order.clear id).distinct, List.pairwise_singleton _ _, fun a member b last => ?_⟩
    obtain ⟨entry, kept, rfl⟩ := List.mem_map.1 member
    cases List.mem_singleton.1 last
    exact of_decide_eq_true (List.mem_filter.1 kept).2
  ordered := by
    refine List.pairwise_append.2 ⟨(order.clear id).ordered, List.pairwise_singleton _ _, ?_⟩
    intro a member b last
    cases List.mem_singleton.1 last
    exact (order.clear id).past a member
  past entry member := by
    rcases List.mem_append.1 member with kept | last
    · exact Nat.lt_succ_of_lt ((order.clear id).past entry kept)
    · cases List.mem_singleton.1 last
      exact Nat.lt_succ_self _

theorem InOrder.perm (order : t.InOrder rows) : t.rows.toList.Perm rows := by
  refine (List.perm_ext_iff_of_nodup ?_ (List.Nodup.of_map _ order.distinct)).2 fun entry => ?_
  · refine Std.ExtTreeMap.distinct_keys_toList.imp fun apart same => apart ?_
    rw [same]
    exact Std.ReflCmp.compare_self
  · rw [order.same]
    exact Std.ExtTreeMap.mem_toList_iff_getElem?_eq_some

theorem InOrder.size (order : t.InOrder rows) : t.size = rows.length := by
  rw [FailureTable.size, ← Std.ExtTreeMap.length_toList]
  exact order.perm.length_eq

theorem lookup_of_mem {entries : List (String × FailureRecord)} {id : String} {r : FailureRecord}
    (distinct : (entries.map (·.1)).Nodup) (member : (id, r) ∈ entries) :
    entries.lookup id = some r := by
  obtain ⟨before, after, rfl⟩ := List.append_of_mem member
  refine List.lookup_eq_some_iff.2 ⟨before, after, rfl, fun entry earlier => ?_⟩
  rw [List.map_append, List.nodup_append] at distinct
  have apart := distinct.2.2 entry.1 (List.mem_map_of_mem earlier) id List.mem_cons_self
  exact bne_iff_ne.2 apart.symm

def entryOf (row : String × FailureRow) : String × FailureRecord := (row.1, row.2.record)

theorem InOrder.lookup (order : t.InOrder rows) (id : String) :
    t.lookup id = (rows.map entryOf).lookup id := by
  rw [FailureTable.lookup]
  cases found : t.rows[id]? with
  | some row =>
    have distinct : ((rows.map entryOf).map (·.1)).Nodup := by
      rw [List.map_map]
      exact order.distinct
    have member : (id, row.record) ∈ rows.map entryOf :=
      List.mem_map_of_mem ((order.same id row).2 found)
    exact (lookup_of_mem distinct member).symm
  | none =>
    refine (List.lookup_eq_none_iff.2 fun entry member => bne_iff_ne.2 ?_).symm
    rintro rfl
    obtain ⟨⟨id, row⟩, here, rfl⟩ := List.mem_map.1 member
    cases found.symm.trans ((order.same id row).1 here)

theorem InOrder.new (order : t.InOrder rows) {id : String} (absent : ∀ row ∈ rows, row.1 ≠ id)
    (r : FailureRecord) :
    (t.put id ⟨r, t.clock⟩).InOrder (rows ++ [(id, ⟨r, t.clock⟩)]) := by
  have kept : rows.filter (·.1 ≠ id) = rows :=
    List.filter_eq_self.2 fun row member => decide_eq_true (absent row member)
  have after := order.put id r
  rwa [kept] at after

theorem InOrder.tail {first : String × FailureRow} {rest : List (String × FailureRow)}
    (order : t.InOrder (first :: rest)) : (t.clear first.1).InOrder rest := by
  have apart : ∀ entry ∈ rest, entry.1 ≠ first.1 := fun entry member same =>
    (List.nodup_cons.1 order.distinct).1 (List.mem_map.2 ⟨entry, member, same⟩)
  have kept : (first :: rest).filter (·.1 ≠ first.1) = rest := by
    rw [List.filter_cons_of_neg (by simp), List.filter_eq_self]
    exact fun entry member => decide_eq_true (apart entry member)
  exact kept ▸ order.clear first.1

theorem oldest_mem {keep : String} {found : String × Nat} (chosen : t.oldest keep = some found) :
    ∃ row, t.rows[found.1]? = some row ∧ found.2 = row.stamp := by
  have among (entries : List (String × FailureRow)) (best : Option (String × Nat)) :
      ∀ found, entries.foldl (fun best entry => older keep best entry.1 entry.2) best =
        some found → best = some found ∨ ∃ row, (found.1, row) ∈ entries ∧ found.2 = row.stamp := by
    induction entries generalizing best with
    | nil => exact fun _ h => .inl h
    | cons entry entries ih =>
      intro found h
      rcases ih _ found h with before | ⟨row, member, stamp⟩
      · rcases older_eq keep best entry.1 entry.2 with same | ⟨new, -⟩
        · exact .inl (same ▸ before)
        · cases new.symm.trans before
          exact .inr ⟨entry.2, List.mem_cons_self, rfl⟩
      · exact .inr ⟨row, List.mem_cons_of_mem _ member, stamp⟩
  rw [oldest, Std.ExtTreeMap.foldl_eq_foldl_toList] at chosen
  rcases among _ none found chosen with nothing | ⟨row, member, stamp⟩
  · cases nothing
  · exact ⟨row, Std.ExtTreeMap.mem_toList_iff_getElem?_eq_some.1 member, stamp⟩

def NoNewer (stamp : Nat) (best : Option (String × Nat)) : Prop := ∃ found ∈ best, found.2 ≤ stamp

theorem NoNewer.older {stamp : Nat} {best : Option (String × Nat)} (found : NoNewer stamp best)
    (keep : String) (entry : String × FailureRow) :
    NoNewer stamp (older keep best entry.1 entry.2) := by
  obtain ⟨f, rfl, noNewer⟩ := found
  by_cases isOlder : entry.2.stamp < f.2 ∧ entry.1 ≠ keep
  · refine ⟨(entry.1, entry.2.stamp), by simp [FailureTable.older, isOlder], ?_⟩
    exact Nat.le_trans (Nat.le_of_lt isOlder.1) noNewer
  · refine ⟨f, ?_, noNewer⟩
    simp_all [FailureTable.older]

theorem noNewer_older {keep : String} {entry : String × FailureRow} (other : entry.1 ≠ keep)
    (best : Option (String × Nat)) :
    NoNewer entry.2.stamp (older keep best entry.1 entry.2) := by
  cases best with
  | none => exact ⟨_, by simp [FailureTable.older, other]; rfl, Nat.le_refl _⟩
  | some f =>
    by_cases isOlder : entry.2.stamp < f.2
    · exact ⟨(entry.1, entry.2.stamp), by simp [FailureTable.older, other, isOlder], Nat.le_refl _⟩
    · exact ⟨f, by simp [FailureTable.older, isOlder], Nat.le_of_not_lt isOlder⟩

theorem noNewer_oldest {keep id : String} {row : FailureRow} (here : t.rows[id]? = some row)
    (other : id ≠ keep) : NoNewer row.stamp (t.oldest keep) := by
  have kept (entries : List (String × FailureRow)) (best : Option (String × Nat))
      (found : NoNewer row.stamp best) : NoNewer row.stamp
        (entries.foldl (fun best entry => older keep best entry.1 entry.2) best) := by
    induction entries generalizing best with
    | nil => exact found
    | cons entry entries ih => exact ih _ (found.older keep entry)
  have member : (id, row) ∈ t.rows.toList := Std.ExtTreeMap.mem_toList_iff_getElem?_eq_some.2 here
  obtain ⟨before, after, split⟩ := List.append_of_mem member
  rw [oldest, Std.ExtTreeMap.foldl_eq_foldl_toList, split, List.foldl_append]
  exact kept after _ (noNewer_older other _)

theorem InOrder.oldest {first : String × FailureRow} {rest : List (String × FailureRow)}
    {keep : String} (order : t.InOrder (first :: rest)) (other : first.1 ≠ keep) :
    t.oldest keep = some (first.1, first.2.stamp) := by
  have here : t.rows[first.1]? = some first.2 := (order.same _ _).1 List.mem_cons_self
  obtain ⟨found, chosen, noNewer⟩ := noNewer_oldest here other
  obtain ⟨row, there, stamp⟩ := oldest_mem chosen
  rcases List.mem_cons.1 ((order.same _ _).2 there) with same | later
  · rw [chosen, ← same, ← stamp]
  · have newer : first.2.stamp < row.stamp := List.rel_of_pairwise_cons order.ordered later
    omega

theorem InOrder.evict_fits (order : t.InOrder rows) {keep : String}
    (fits : rows.length ≤ t.capacity) : t.evict keep = (t, none) := by
  rw [evict, order.size, if_pos fits]

theorem InOrder.evict_full {first : String × FailureRow} {rest : List (String × FailureRow)}
    {keep : String} (order : t.InOrder (first :: rest)) (other : first.1 ≠ keep)
    (full : t.capacity < (first :: rest).length) :
    t.evict keep = (t.clear first.1, some first.1) := by
  rw [evict, order.size, if_neg (Nat.not_le_of_lt full), order.oldest other]

end order

section agreement
variable {t : FailureTable} {l : RecencyList}

structure Agrees (t : FailureTable) (l : RecencyList) : Prop where
  entries : ∃ rows, t.InOrder rows ∧ l.entries = rows.map entryOf
  capacity : t.capacity = l.capacity
  room : l.size ≤ l.capacity
  positive : 0 < l.capacity

theorem agrees_ofCapacity (capacity : Nat) :
    (ofCapacity capacity).Agrees (.ofCapacity capacity) where
  entries := ⟨[], .empty capacity, rfl⟩
  capacity := rfl
  room := Nat.zero_le _
  positive := Nat.lt_of_lt_of_le Nat.one_pos (Nat.le_max_right _ _)

theorem Agrees.lookup (agrees : t.Agrees l) (id : String) : t.lookup id = l.lookup id := by
  obtain ⟨rows, order, entries⟩ := agrees.entries
  rw [RecencyList.lookup, entries, order.lookup]

theorem Agrees.size (agrees : t.Agrees l) : t.size = l.size := by
  obtain ⟨rows, order, entries⟩ := agrees.entries
  rw [RecencyList.size, entries, order.size, List.length_map]

theorem map_filter_entryOf (rows : List (String × FailureRow)) (id : String) :
    (rows.filter (·.1 ≠ id)).map entryOf = (rows.map entryOf).filter (·.1 ≠ id) := by
  rw [List.filter_map]
  rfl

theorem Agrees.clear (agrees : t.Agrees l) (id : String) : (t.clear id).Agrees (l.clear id) := by
  obtain ⟨rows, order, entries⟩ := agrees.entries
  refine ⟨⟨_, order.clear id, ?_⟩, agrees.capacity, ?_, agrees.positive⟩
  · rw [map_filter_entryOf, ← entries]
    rfl
  · exact Nat.le_trans (List.length_filter_le _ _) agrees.room

theorem Agrees.again (agrees : t.Agrees l) {id : String} {known : FailureRecord}
    (found : l.lookup id = some known) (r : FailureRecord) :
    (t.put id ⟨r, t.clock⟩).Agrees
      { l with entries := (l.clear id).entries ++ [(id, r)] } := by
  obtain ⟨rows, order, entries⟩ := agrees.entries
  refine ⟨⟨_, order.put id r, ?_⟩, agrees.capacity, ?_, agrees.positive⟩
  · rw [List.map_append, map_filter_entryOf, ← entries]
    rfl
  · obtain ⟨before, after, split, -⟩ := List.lookup_eq_some_iff.1 found
    have fewer : (l.clear id).entries.length < l.entries.length := by
      refine List.length_filter_lt_length_iff_exists.2 ⟨(id, known), ?_, by simp⟩
      simp [split]
    have room : l.entries.length ≤ l.capacity := agrees.room
    simp only [RecencyList.size, List.length_append, List.length_singleton]
    omega

theorem Agrees.new (agrees : t.Agrees l) {id : String} (unknown : l.lookup id = none)
    (r : FailureRecord) :
    let longer := l.entries ++ [(id, r)]
    let made := (t.put id ⟨r, t.clock⟩).evict id
    if longer.length ≤ l.capacity then made.2 = none ∧ made.1.Agrees { l with entries := longer }
    else made.2 = longer.head?.map (·.1) ∧ made.1.Agrees { l with entries := longer.tail } := by
  intro longer made
  obtain ⟨rows, order, entries⟩ := agrees.entries
  have absent : ∀ row ∈ rows, row.1 ≠ id := fun row member => by
    have entry : entryOf row ∈ l.entries := entries ▸ List.mem_map_of_mem member
    exact (bne_iff_ne.1 (List.lookup_eq_none_iff.1 unknown _ entry)).symm
  have after := order.new absent r
  have shown : longer = (rows ++ [(id, (⟨r, t.clock⟩ : FailureRow))]).map entryOf := by
    rw [List.map_append, ← entries]
    rfl
  have long : longer.length = rows.length + 1 := by
    rw [shown, List.length_map, List.length_append, List.length_singleton]
  have sameRoom : (t.put id ⟨r, t.clock⟩).capacity = l.capacity := agrees.capacity
  split
  case isTrue fits =>
    have stays : made = (t.put id ⟨r, t.clock⟩, none) := after.evict_fits (by simp; omega)
    rw [stays]
    exact ⟨rfl, ⟨_, after, shown⟩, agrees.capacity, fits, agrees.positive⟩
  case isFalse full =>
    have room : rows.length ≤ l.capacity := by
      have same := congrArg List.length entries
      rw [List.length_map] at same
      exact same ▸ agrees.room
    have positive := agrees.positive
    cases rows with
    | nil => simp at long; omega
    | cons first rest =>
      have goes : made = ((t.put id ⟨r, t.clock⟩).clear first.1, some first.1) :=
        after.evict_full (absent first List.mem_cons_self) (by simp at long ⊢; omega)
      rw [goes, shown]
      refine ⟨rfl, ⟨_, after.tail, rfl⟩, agrees.capacity, ?_, positive⟩
      simpa [RecencyList.size] using room

theorem Agrees.use (agrees : t.Agrees l) (use : TableUse) :
    (t.use use).1.Agrees (l.use use).1 ∧ (t.use use).2 = (l.use use).2 := by
  cases use with
  | asked id => exact ⟨agrees, congrArg TableAnswer.found (agrees.lookup id)⟩
  | made change =>
    cases change with
    | cleared id => exact ⟨agrees.clear id, rfl⟩
    | recorded id failure toErrorQueue toDelay =>
      simp only [FailureTable.use, RecencyList.use, FailureTable.change, dropped?,
        FailureTable.record, RecencyList.record, agrees.lookup]
      cases known : l.lookup id with
      | some r => exact ⟨agrees.again known _, rfl⟩
      | none =>
        have new := agrees.new known ⟨1, failure, toErrorQueue, toDelay⟩
        dsimp only at new ⊢
        split at new <;> rename_i fits
        · rw [if_pos fits]
          exact ⟨new.2, congrArg TableAnswer.dropped new.1⟩
        · rw [if_neg fits]
          exact ⟨new.2, congrArg TableAnswer.dropped new.1⟩

theorem Agrees.used (agrees : t.Agrees l) (uses : List TableUse) :
    (t.used uses).Agrees (l.used uses) ∧ t.answers uses = l.answers uses := by
  induction uses generalizing t l with
  | nil => exact ⟨agrees, rfl⟩
  | cons use uses ih =>
    obtain ⟨agreesAfter, sameAnswer⟩ := agrees.use use
    obtain ⟨later, sameLater⟩ := ih agreesAfter
    refine ⟨later, ?_⟩
    rw [FailureTable.answers, RecencyList.answers, sameAnswer, agreesAfter.size, sameLater]

/-- However a table was used, nothing is left to be dropped: one row at most had to go each time. -/
theorem evict_used (capacity : Nat) (uses : List TableUse) (keep : String) :
    ((ofCapacity capacity).used uses).evict keep = ((ofCapacity capacity).used uses, none) := by
  have agrees := ((agrees_ofCapacity capacity).used uses).1
  have fits :
      ((ofCapacity capacity).used uses).size ≤ ((ofCapacity capacity).used uses).capacity := by
    rw [agrees.size, agrees.capacity]
    exact agrees.room
  exact if_pos fits

end agreement

section history

structure Recorded where
  failure : Failure
  toErrorQueue : Bool
  toDelay : Bool
  deriving DecidableEq

def recordOf (history : List Recorded) : Option FailureRecord :=
  history.getLast?.map fun last =>
    ⟨history.length, last.failure, last.toErrorQueue, last.toDelay⟩

theorem recordOf_append (history : List Recorded) (last : Recorded) :
    recordOf (history ++ [last]) =
      some (counted (recordOf history) last.failure last.toErrorQueue last.toDelay) := by
  cases history using List.reverseRecOn with
  | nil => rfl
  | append_singleton history before =>
    simp [recordOf, counted, again]

theorem attempts_recordOf (history : List Recorded) :
    ((recordOf history).map (·.attempts)).getD 0 = history.length := by
  cases history using List.reverseRecOn with
  | nil => rfl
  | append_singleton history last => simp [recordOf]

/-- The history of a message after one more use: a record lengthens it, and it ends when the
message is forgotten, by a change about it or to make room. -/
def remembered (t : FailureTable) (id : String) (history : List Recorded) :
    TableUse → List Recorded
  | .asked _ => history
  | .made (.cleared other) => if other = id then [] else history
  | .made (.recorded other failure toErrorQueue toDelay) =>
    if other = id then history ++ [⟨failure, toErrorQueue, toDelay⟩]
    else if (t.record other failure toErrorQueue toDelay).2 = some id then []
    else history

def sinceForgotten (t : FailureTable) (id : String) (history : List Recorded) :
    List TableUse → List Recorded
  | [] => history
  | use :: rest => sinceForgotten (t.use use).1 id (t.remembered id history use) rest

variable {t : FailureTable} {id : String} {history : List Recorded}

theorem lookup_evict_gone {keep : String} (gone : (t.evict keep).2 = some id) :
    (t.evict keep).1.lookup id = none := by
  unfold evict at gone ⊢
  split at gone
  · cases gone
  · rename_i full
    rw [if_neg full]
    split at gone
    · cases gone
    · cases gone
      exact lookup_clear_self ..

theorem lookup_dropped (t : FailureTable) (change : TableChange)
    (gone : t.dropped? change = some id) : (t.change change).lookup id = none := by
  cases change with
  | cleared other => cases gone
  | recorded other failure toErrorQueue toDelay =>
    obtain ⟨row, same | same⟩ := t.record_cases other failure toErrorQueue toDelay
    · rw [dropped?, same] at gone
      cases gone
    · rw [dropped?, same] at gone
      rw [FailureTable.change, same]
      exact lookup_evict_gone gone

theorem lookup_change_kept (t : FailureTable) (change : TableChange) (other : id ≠ change.id)
    (stays : t.dropped? change ≠ some id) : (t.change change).lookup id = t.lookup id :=
  (t.lookup_change_other id other).resolve_right fun gone => stays gone.2

theorem lookup_use (known : t.lookup id = recordOf history) (use : TableUse) :
    (t.use use).1.lookup id = recordOf (t.remembered id history use) := by
  cases use with
  | asked other => exact known
  | made change =>
    cases change with
    | cleared other =>
      by_cases same : other = id
      · subst same
        simp [FailureTable.use, change, remembered, recordOf]
      · have kept := t.lookup_change_kept (.cleared other) (Ne.symm same) fun gone => by cases gone
        rwa [remembered, if_neg same, ← known]
    | recorded other failure toErrorQueue toDelay =>
      by_cases same : other = id
      · subst same
        rw [remembered, if_pos rfl, recordOf_append, ← known]
        exact lookup_record_self ..
      · rw [remembered, if_neg same]
        split
        case isTrue gone =>
          exact t.lookup_dropped (.recorded other failure toErrorQueue toDelay) gone
        case isFalse stays =>
          rw [← known]
          exact t.lookup_change_kept (.recorded other failure toErrorQueue toDelay) (Ne.symm same)
            stays

/-- A record counts the failures since its message was last forgotten, and tells the last one. -/
theorem lookup_used (known : t.lookup id = recordOf history) (uses : List TableUse) :
    (t.used uses).lookup id = recordOf (t.sinceForgotten id history uses) := by
  induction uses generalizing t history with
  | nil => exact known
  | cons use uses ih => exact ih (lookup_use known use)

theorem length_remembered (t : FailureTable) (id : String) (history : List Recorded)
    (use : TableUse) :
    (t.remembered id history use).length ≤ history.length + if use.isRecord then 1 else 0 := by
  fun_cases remembered <;> simp [TableUse.isRecord]

theorem length_sinceForgotten (t : FailureTable) (id : String) (history : List Recorded)
    (uses : List TableUse) :
    (t.sinceForgotten id history uses).length ≤
      history.length + uses.countP TableUse.isRecord := by
  induction uses generalizing t history with
  | nil => simp [sinceForgotten]
  | cons use uses ih =>
    have here := t.length_remembered id history use
    have later := ih (t.use use).1 (t.remembered id history use)
    rw [sinceForgotten, List.countP_cons]
    omega

end history

theorem never_drops_its_own (t : FailureTable) (id : String) (failure : Failure)
    (toErrorQueue toDelay : Bool) :
    (t.record id failure toErrorQueue toDelay).2 ≠ some id := by
  intro gone
  have nothing := t.lookup_dropped (.recorded id failure toErrorQueue toDelay) gone
  rw [change, lookup_record_self] at nothing
  cases nothing

/-- Whatever the table is used for, it answers as the list does, and it holds what the list holds:
no more messages than there is room for, each with the number of its failures since it was last
forgotten and with the last of them. A record never drops its own message, and a change leaves
the records of all messages as they are but the one it is about and the one it drops. -/
theorem table_is_recency_list (capacity : Nat) (uses : List TableUse) :
    let t := (ofCapacity capacity).used uses
    let l := (RecencyList.ofCapacity capacity).used uses
    (ofCapacity capacity).answers uses = (RecencyList.ofCapacity capacity).answers uses ∧
      (∀ id, t.lookup id = l.lookup id) ∧
      (t.size = l.size ∧ t.size ≤ max capacity 1) ∧
      (∀ id, t.lookup id = recordOf ((ofCapacity capacity).sinceForgotten id [] uses) ∧
        t.attempts id ≤ uses.countP TableUse.isRecord) ∧
      (∀ id failure toErrorQueue toDelay,
        let made := t.record id failure toErrorQueue toDelay
        made.2 ≠ some id ∧
          made.1.lookup id = some (counted (t.lookup id) failure toErrorQueue toDelay)) ∧
      ∀ change id, id = change.id ∨ t.dropped? change = some id ∨
        (t.change change).lookup id = t.lookup id := by
  intro t l
  obtain ⟨agrees, sameAnswers⟩ := (agrees_ofCapacity capacity).used uses
  have told (id : String) :
      t.lookup id = recordOf ((ofCapacity capacity).sinceForgotten id [] uses) :=
    lookup_used (by simp [lookup, ofCapacity, recordOf]) uses
  refine ⟨sameAnswers, agrees.lookup, ⟨agrees.size, ?size⟩, fun id => ⟨told id, ?count⟩, ?own,
    ?others⟩
  case size =>
    have room := agrees.room
    rw [RecencyList.capacity_used] at room
    exact agrees.size ▸ room
  case count =>
    rw [attempts, told, attempts_recordOf]
    simpa using (ofCapacity capacity).length_sinceForgotten id [] uses
  case own =>
    intro id failure toErrorQueue toDelay
    exact ⟨t.never_drops_its_own id failure toErrorQueue toDelay, t.lookup_record_self ..⟩
  case others =>
    intro change id
    by_cases other : id = change.id
    · exact .inl other
    · rcases t.lookup_change_other id other with kept | ⟨-, dropped⟩
      · exact .inr (.inr kept)
      · exact .inr (.inl dropped)

/-- A message that failed again is younger than one that did not. -/
example (f : Failure) :
    let recorded id := TableUse.made (.recorded id f false false)
    (((ofCapacity 2).answers (["a", "b", "a", "c"].map recorded)).map (·.1)).getLast? =
      some (.dropped (some "b")) := by
  rfl

end FailureTable
end Redelivery
