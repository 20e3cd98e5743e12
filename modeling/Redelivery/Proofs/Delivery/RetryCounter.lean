import Mathlib.Data.List.Dedup
import Redelivery.Proofs.FailureTable.StageChanges

/-! The stage of immediate retries as a counter for each message. What counts are the failures that
can be retried, since the message last succeeded or such a failure of it was last passed on. Bodies
that cannot be read and other messages in between make no difference. The stages behind it may be
any that leave the table of failures as it is. -/
namespace Redelivery

def Ended.fine : Ended Passage → Bool
  | .done p => p.failure.isNone
  | .panicked _ => false

def Ended.failedRetryably : Ended Passage → Bool
  | .done p => p.failure.any (·.isRetryable)
  | .panicked _ => false

/-- A delivery to the stage: the world it found, the course of the stages behind it there, and the
course of the stage with them. -/
structure Trial (σ : Type) where
  context : Context
  found : World σ
  inner : Course σ Passage
  outer : Course σ Passage

namespace Trial
variable {σ : Type}

def id (t : Trial σ) : String := t.context.message.id

def failedRetryably (t : Trial σ) : Bool := t.inner.ended.failedRetryably

/-- A success, or a failure that could be retried and was passed on. -/
def settled (t : Trial σ) : Bool := t.inner.ended.fine || t.outer.ended.failedRetryably

/-- The stages behind failed, and nobody in front is told. -/
def absorbed (t : Trial σ) : Bool := !t.inner.ended.fine && t.outer.ended.fine

/-- The ways of a delivery whose message failed some times since it was last settled, each with
what the stage itself tells. -/
inductive Counts (bound tried : Nat) (t : Trial σ) : List Deed → Prop where
  | succeeded {p : Passage} (inner : t.inner.ended = .done p) (fine : p.failure = none)
      (outer : t.outer.ended = .done p)
      (table : t.outer.world.table = t.found.table.clear t.id)
      (forgotten : t.outer.world.table.lookup t.id = none) : Counts bound tried t []
  | absorbed {p : Passage} {failure : Failure} (inner : t.inner.ended = .done p)
      (failed : p.failure = some failure) (retryable : failure.isRetryable = true)
      (left : tried < bound) (outer : t.outer.ended = .done { context := p.context.abort })
      (table : t.outer.world.table = (t.found.table.record t.id failure false false).1)
      (counted : t.outer.world.table.lookup t.id = some ⟨tried + 1, failure, false, false⟩) :
      Counts bound tried t [.notified (.retry (tried + 1) .zero true p.context.message failure)]
  | handedOn {p : Passage} {failure : Failure} (inner : t.inner.ended = .done p)
      (failed : p.failure = some failure) (retryable : failure.isRetryable = true)
      (spent : tried = bound)
      (outer : t.outer.ended = .done
        { context := { p.context with
            message := p.context.message.setHeader Headers.immediateRetries (Whole.text bound) },
          failure := some failure })
      (table : t.outer.world.table = t.found.table.clear t.id)
      (forgotten : t.outer.world.table.lookup t.id = none) : Counts bound tried t []
  | unreadable {p : Passage} {failure : Failure} (inner : t.inner.ended = .done p)
      (failed : p.failure = some failure) (hopeless : failure.isRetryable = false)
      (outer : t.outer.ended = .done p) (table : t.outer.world.table = t.found.table) :
      Counts bound tried t []
  | panicked {text : String} (inner : t.inner.ended = .panicked text)
      (outer : t.outer.ended = .panicked text)
      (table : t.outer.world.table = t.found.table) : Counts bound tried t []

/-- A delivery as the counter of its message has it, which no other message's counter notices. -/
structure Obeys (bound tried : Nat) (t : Trial σ) : Prop where
  within : tried ≤ bound
  known : t.found.table.attempts t.id = tried
  others : ∀ other ≠ t.id, t.outer.world.table.lookup other = t.found.table.lookup other
  counts : ∃ told, t.Counts bound tried told ∧ t.outer.deeds =
    .entered ReceivePipeline.immediateRetriesName t.id :: t.inner.deeds ++ told

end Trial

section history
variable {σ : Type} (id : String) (history : List (Trial σ))

def sinceSettled : List (Trial σ) :=
  (history.filter (·.id = id)).reverse.takeWhile fun t => !t.settled

def failuresSinceSettled : Nat := (sinceSettled id history).countP (·.failedRetryably)

def failing : List String :=
  (history.map (·.id)).dedup.filter fun id => 0 < failuresSinceSettled id history

theorem sinceSettled_append (t : Trial σ) :
    sinceSettled id (history ++ [t]) =
      if t.id = id then if t.settled then [] else t :: sinceSettled id history
      else sinceSettled id history := by
  by_cases same : t.id = id
  · cases settled : t.settled <;> simp [sinceSettled, List.filter_append, same, settled]
  · simp [sinceSettled, List.filter_append, same]

theorem failures_append_other {t : Trial σ} (other : t.id ≠ id) :
    failuresSinceSettled id (history ++ [t]) = failuresSinceSettled id history := by
  rw [failuresSinceSettled, sinceSettled_append, if_neg other, failuresSinceSettled]

theorem failures_append_self (t : Trial σ) :
    failuresSinceSettled t.id (history ++ [t]) =
      if t.settled then 0
      else failuresSinceSettled t.id history + t.failedRetryably.toNat := by
  rw [failuresSinceSettled, sinceSettled_append, if_pos rfl]
  cases settled : t.settled with
  | true => rfl
  | false => cases failed : t.failedRetryably <;> simp [failuresSinceSettled, failed]

theorem failures_append_all {between : List (Trial σ)}
    (unsettled : ∀ t ∈ between, t.id = id → t.settled = false) :
    failuresSinceSettled id (history ++ between) = failuresSinceSettled id history +
      between.countP fun t => t.id = id && t.failedRetryably := by
  have along : ∀ t ∈ (between.filter (·.id = id)).reverse, (!t.settled) = true := by
    intro t member
    obtain ⟨here, same⟩ := List.mem_filter.1 (List.mem_reverse.1 member)
    simp [unsettled t here (of_decide_eq_true same)]
  rw [failuresSinceSettled, sinceSettled, List.filter_append, List.reverse_append,
    List.takeWhile_append_of_pos along, List.countP_append, List.countP_reverse,
    List.countP_filter, Nat.add_comm, failuresSinceSettled, sinceSettled]
  simp only [Bool.and_comm]

theorem mem_failing : id ∈ failing history ↔ 0 < failuresSinceSettled id history := by
  refine ⟨fun member => by simpa using (List.mem_filter.1 member).2, fun failed => ?_⟩
  obtain ⟨t, since, -⟩ := List.countP_pos_iff.1 failed
  have member := List.mem_reverse.1 ((List.takeWhile_sublist _).subset since)
  obtain ⟨here, same⟩ := List.mem_filter.1 member
  refine List.mem_filter.2 ⟨List.mem_dedup.2 (List.mem_map.2 ⟨t, here, ?_⟩), by simpa using failed⟩
  exact of_decide_eq_true same

theorem failing_append {t : Trial σ} (unsettled : t.settled = false) {id : String}
    (member : id ∈ failing history) : id ∈ failing (history ++ [t]) := by
  rw [mem_failing] at member ⊢
  by_cases about : t.id = id
  · subst about
    rw [failures_append_self, unsettled]
    exact Nat.lt_of_lt_of_le member (Nat.le_add_right _ _)
  · rwa [failures_append_other id history about]

theorem length_failing : (failing history).length ≤ (history.map (·.id)).dedup.length :=
  List.length_filter_le _ _

end history

section deliveries
variable {σ : Type} {o : Outside σ} {bound : Nat} {own : List Stage}

def Outside.KeepsTable (o : Outside σ) (own : List Stage) : Prop :=
  ∀ c w, ((runStages own c).course o w).world.table = w.table

theorem keepsTable_of_leavesAlone (o : Outside σ) (alone : ∀ stage ∈ own, stage.LeavesAlone) :
    o.KeepsTable own := by
  intro c w
  rw [Flow.table_course, Flow.changes_of_leavesAlone o w (only_runStages alone c)]
  rfl

def countingStages (bound : Nat) (own : List Stage) : List Stage :=
  ⟨ReceivePipeline.immediateRetriesName, Stage.immediateRetries bound⟩ :: own

def tryOnce (o : Outside σ) (bound : Nat) (own : List Stage) (c : Context) (w : World σ) :
    Trial σ where
  context := c
  found := w
  inner := (runStages own c).course o w
  outer := (runStages (countingStages bound own) c).course o w

def tryAll (o : Outside σ) (bound : Nat) (own : List Stage) :
    List Context → World σ → List (Trial σ)
  | [], _ => []
  | c :: cs, w =>
    tryOnce o bound own c w :: tryAll o bound own cs (tryOnce o bound own c w).outer.world

variable {c : Context} {w w' : World σ} {ds : List Deed}

theorem outer_panicked (bound : Nat) {text : String}
    (inner : (runStages own c).course o w = ⟨.panicked text, w', ds⟩) :
    (tryOnce o bound own c w).outer =
      ⟨.panicked text, w', .entered ReceivePipeline.immediateRetriesName c.message.id :: ds⟩ := by
  rw [tryOnce, countingStages, course_runStages, course_immediateRetries_stopped bound inner]
  rfl

theorem outer_done (bound : Nat) {p : Passage}
    (inner : (runStages own c).course o w = ⟨.done p, w', ds⟩) :
    (tryOnce o bound own c w).outer =
      ((settleFailure bound c.message.id (w.table.attempts c.message.id) p).course o w').after
        (.entered ReceivePipeline.immediateRetriesName c.message.id :: ds) := by
  rw [tryOnce, countingStages, course_runStages, course_immediateRetries_done bound inner,
    Course.after_after]
  rfl

theorem counts_failed {p : Passage} {failure : Failure}
    (inner : (runStages own c).course o w = ⟨.done p, w', ds⟩) (kept : w'.table = w.table)
    (failed : p.failure = some failure) (within : w.table.attempts c.message.id ≤ bound) :
    ∃ told, (tryOnce o bound own c w).Counts bound (w.table.attempts c.message.id) told ∧
      (tryOnce o bound own c w).outer.deeds =
        .entered ReceivePipeline.immediateRetriesName c.message.id :: ds ++ told := by
  have mine : (tryOnce o bound own c w).inner.ended = .done p := congrArg Course.ended inner
  have outer := outer_done bound inner
  cases retryable : failure.isRetryable with
  | false =>
    rw [course_settleFailure_unreadable _ _ _ failed retryable, Course.after_mk] at outer
    have table := (congrArg (·.world.table) outer).trans kept
    exact ⟨[], .unreadable mine failed retryable (congrArg Course.ended outer) table,
      congrArg Course.deeds outer⟩
  | true =>
    by_cases left : w.table.attempts c.message.id < bound
    · rw [course_settleFailure_left _ _ failed retryable left, Course.after_mk, kept] at outer
      have table := congrArg (·.world.table) outer
      refine ⟨_, .absorbed mine failed retryable left (congrArg Course.ended outer) table ?_,
        congrArg Course.deeds outer⟩
      rw [outer]
      exact w.table.record_self c.message.id failure false false
    · have spent : w.table.attempts c.message.id = bound :=
        Nat.le_antisymm within (Nat.le_of_not_lt left)
      rw [course_settleFailure_spent _ _ failed retryable (Nat.le_of_eq spent.symm),
        Course.after_mk, kept, spent] at outer
      have table := congrArg (·.world.table) outer
      refine ⟨[], .handedOn mine failed retryable spent (congrArg Course.ended outer) table ?_,
        congrArg Course.deeds outer⟩
      rw [outer]
      exact w.table.lookup_clear_self c.message.id

theorem counts_tryOnce (keeps : o.KeepsTable own) (c : Context) (w : World σ)
    (within : w.table.attempts c.message.id ≤ bound) :
    ∃ told, (tryOnce o bound own c w).Counts bound (w.table.attempts c.message.id) told ∧
      (tryOnce o bound own c w).outer.deeds =
        .entered ReceivePipeline.immediateRetriesName c.message.id ::
          (tryOnce o bound own c w).inner.deeds ++ told := by
  have kept := keeps c w
  cases inner : (runStages own c).course o w with
  | mk ended w' ds =>
    rw [inner] at kept
    have mine : (tryOnce o bound own c w).inner.ended = ended := congrArg Course.ended inner
    have deeds : (tryOnce o bound own c w).inner.deeds = ds := congrArg Course.deeds inner
    rw [deeds]
    cases ended with
    | panicked text =>
      have outer := outer_panicked bound inner
      have table := (congrArg (·.world.table) outer).trans kept
      refine ⟨[], .panicked mine (congrArg Course.ended outer) table, ?_⟩
      rw [outer, List.append_nil]
    | done p =>
      cases failed : p.failure with
      | some failure => exact counts_failed inner kept failed within
      | none =>
        have outer := outer_done bound inner
        rw [course_settleFailure_fine _ _ _ failed, Course.after_mk, kept] at outer
        have table := congrArg (·.world.table) outer
        refine ⟨[], .succeeded mine failed (congrArg Course.ended outer) table ?_,
          congrArg Course.deeds outer⟩
        rw [outer]
        exact w.table.lookup_clear_self c.message.id

end deliveries

namespace Trial
variable {σ : Type} {bound tried : Nat} {t : Trial σ} {told : List Deed}

inductive Moves (bound tried : Nat) (t : Trial σ) : Prop where
  | cleared (settled : t.settled = true) (heard : t.absorbed = false)
      (table : t.outer.world.table = t.found.table.change (.cleared t.id))
  | raised {failure : Failure} (unsettled : t.settled = false) (failed : t.failedRetryably = true)
      (left : tried < bound)
      (table : t.outer.world.table =
        t.found.table.change (.recorded t.id failure false false))
  | kept (unsettled : t.settled = false) (hopeless : t.failedRetryably = false)
      (heard : t.absorbed = false) (table : t.outer.world.table = t.found.table)

theorem Counts.moves (counts : t.Counts bound tried told) : t.Moves bound tried := by
  cases counts with
  | succeeded inner fine outer table =>
    refine .cleared ?_ ?_ table
    · simp [settled, inner, Ended.fine, fine]
    · simp [Trial.absorbed, inner, Ended.fine, fine]
  | absorbed inner failed retryable left outer table =>
    refine .raised ?_ ?_ left table
    · simp [settled, inner, outer, Ended.fine, Ended.failedRetryably, failed]
    · simp [failedRetryably, inner, Ended.failedRetryably, failed, retryable]
  | handedOn inner failed retryable spent outer table =>
    refine .cleared ?_ ?_ table
    · simp [settled, outer, Ended.failedRetryably, retryable]
    · simp [Trial.absorbed, outer, Ended.fine]
  | unreadable inner failed hopeless outer table =>
    refine .kept ?_ ?_ ?_ table
    · simp [settled, inner, outer, Ended.fine, Ended.failedRetryably, failed, hopeless]
    · simp [failedRetryably, inner, Ended.failedRetryably, failed, hopeless]
    · simp [Trial.absorbed, outer, Ended.fine, failed]
  | panicked inner outer table =>
    refine .kept ?_ ?_ ?_ table
    · simp [settled, inner, outer, Ended.fine, Ended.failedRetryably]
    · simp [failedRetryably, inner, Ended.failedRetryably]
    · simp [Trial.absorbed, outer, Ended.fine]

theorem Moves.of_absorbed (moves : t.Moves bound tried) (absorbed : t.absorbed = true) :
    t.failedRetryably = true := by
  cases moves with
  | cleared settled heard => cases heard.symm.trans absorbed
  | raised unsettled failed => exact failed
  | kept unsettled hopeless heard => cases heard.symm.trans absorbed

theorem Moves.attempts (moves : t.Moves bound tried)
    (known : t.found.table.attempts t.id = tried) (within : tried ≤ bound) :
    t.outer.world.table.attempts t.id ≤ bound ∧ t.outer.world.table.attempts t.id =
      if t.settled then 0 else tried + t.failedRetryably.toNat := by
  cases moves with
  | cleared settled heard table =>
    have forgotten : t.outer.world.table.attempts t.id = 0 := by
      simp [table, FailureTable.change, FailureTable.attempts]
    rw [forgotten, settled]
    exact ⟨Nat.zero_le _, rfl⟩
  | raised unsettled failed left table =>
    have more : t.outer.world.table.attempts t.id = tried + 1 := by
      rw [table, FailureTable.change, FailureTable.attempts_record_self, known]
    rw [more, unsettled, failed]
    exact ⟨left, rfl⟩
  | kept unsettled hopeless heard table =>
    rw [table, known, unsettled, hopeless]
    exact ⟨within, rfl⟩

theorem Moves.known (moves : t.Moves bound tried)
    (before : t.found.table.lookup t.id ≠ none → 0 < t.found.table.attempts t.id)
    (found : t.outer.world.table.lookup t.id ≠ none) : 0 < t.outer.world.table.attempts t.id := by
  cases moves with
  | cleared settled heard table =>
    rw [table, FailureTable.change, FailureTable.lookup_clear_self] at found
    exact absurd rfl found
  | raised unsettled failed left table =>
    rw [table, FailureTable.change, FailureTable.attempts_record_self]
    exact Nat.succ_pos _
  | kept unsettled hopeless heard table =>
    rw [table] at found ⊢
    exact before found

theorem Moves.capacity (moves : t.Moves bound tried) :
    t.outer.world.table.capacity = t.found.table.capacity := by
  cases moves with
  | kept unsettled hopeless heard table => rw [table]
  | _ => rename_i table; rw [table, FailureTable.capacity_change]

/-- If there is room for all messages that failed, no other message loses its record. -/
theorem Moves.others (moves : t.Moves bound tried) {known : List String}
    (held : t.settled = false → t.failedRetryably = true →
      t.found.table.Holds known ∧ t.id ∈ known) {other : String} (different : other ≠ t.id) :
    t.outer.world.table.lookup other = t.found.table.lookup other := by
  cases moves with
  | cleared settled heard table =>
    rw [table, FailureTable.change, FailureTable.lookup_clear, if_neg different]
  | @raised failure unsettled failed left table =>
    -- A new record is the only change that may cost another message its own.
    obtain ⟨holds, among⟩ := held unsettled failed
    have named : (TableChange.recorded t.id failure false false).id ∈ known := among
    have apart : other ≠ (TableChange.recorded t.id failure false false).id := different
    rcases t.found.table.lookup_change_other other apart with kept | ⟨_, gone⟩
    · rw [table, kept]
    · cases (holds.change named).2.symm.trans gone
  | kept unsettled hopeless heard table => rw [table]

end Trial

section run
variable {σ : Type} {o : Outside σ} {bound : Nat} {own : List Stage} {w : World σ}
  {history : List (Trial σ)} {table : FailureTable}

/-- A table that has counted what the deliveries so far come to. -/
structure Tallied (bound : Nat) (history : List (Trial σ)) (table : FailureTable) : Prop where
  attempts : ∀ id, table.attempts id = failuresSinceSettled id history
  within : ∀ id, table.attempts id ≤ bound
  known : ∀ id, table.lookup id ≠ none → 0 < table.attempts id

theorem tallied_start (bound capacity : Nat) :
    Tallied (σ := σ) bound [] (.ofCapacity capacity) := by
  have empty (id : String) : (FailureTable.ofCapacity capacity).lookup id = none := by
    simp [FailureTable.lookup, FailureTable.ofCapacity]
  refine ⟨fun id => ?_, fun id => ?_, fun id known => absurd (empty id) known⟩
  · rw [FailureTable.attempts, empty]
    rfl
  · rw [FailureTable.attempts, empty]
    exact Nat.zero_le bound

theorem Tallied.holds {t : Trial σ} (tallied : Tallied bound history table)
    (room : (failing (history ++ [t])).length ≤ table.capacity) (unsettled : t.settled = false) :
    table.Holds (failing (history ++ [t])) := by
  refine ⟨fun id member => failing_append history unsettled ?_, room⟩
  refine (mem_failing id history).2 (tallied.attempts id ▸ tallied.known id ?_)
  rw [FailureTable.lookup, Std.ExtTreeMap.getElem?_eq_some_getElem member]
  exact Option.some_ne_none _

/-- A delivery leaves all other messages' records alone, and a table that has counted it. -/
theorem Tallied.after {t : Trial σ} (tallied : Tallied bound history t.found.table)
    (moves : t.Moves bound (failuresSinceSettled t.id history))
    (room : (failing (history ++ [t])).length ≤ t.found.table.capacity) :
    (∀ other ≠ t.id, t.outer.world.table.lookup other = t.found.table.lookup other) ∧
      Tallied bound (history ++ [t]) t.outer.world.table := by
  have known := tallied.attempts t.id
  obtain ⟨within, counted⟩ := moves.attempts known (known ▸ tallied.within t.id)
  rw [← failures_append_self] at counted
  have others : ∀ other ≠ t.id,
      t.outer.world.table.lookup other = t.found.table.lookup other := by
    intro other different
    refine moves.others (fun unsettled failed => ⟨tallied.holds room unsettled, ?_⟩) different
    rw [mem_failing, failures_append_self, unsettled, failed]
    exact Nat.succ_pos _
  have same (other : String) (different : other ≠ t.id) :
      t.outer.world.table.attempts other = t.found.table.attempts other := by
    rw [FailureTable.attempts, others other different, FailureTable.attempts]
  refine ⟨others, fun id => ?_, fun id => ?_, fun id found => ?_⟩
  · by_cases about : id = t.id
    · rw [about, counted]
    · rw [same id about, tallied.attempts, failures_append_other id history (Ne.symm about)]
  · by_cases about : id = t.id
    · rw [about]
      exact within
    · rw [same id about]
      exact tallied.within id
  · by_cases about : id = t.id
    · subst about
      exact moves.known (tallied.known t.id) found
    · rw [others id about] at found
      rw [same id about]
      exact tallied.known id found

/-- Whatever was delivered so far, no message has failed more often than it may since it was last
settled, and the delivery after that goes by its message's count. -/
theorem obeys_tryAll (keeps : o.KeepsTable own) {cs : List Context}
    (tallied : Tallied bound history w.table)
    (room : ∀ early, early <+: tryAll o bound own cs w →
      (failing (history ++ early)).length ≤ w.table.capacity) {before after : List (Trial σ)}
    (split : tryAll o bound own cs w = before ++ after) :
    (∀ id, failuresSinceSettled id (history ++ before) ≤ bound) ∧
      ∀ t rest, after = t :: rest →
        t.Obeys bound (failuresSinceSettled t.id (history ++ before)) := by
  -- On the deliveries to come: any history the table has counted may lie before them.
  induction cs generalizing w history before with
  | nil =>
    obtain ⟨rfl, rfl⟩ := List.append_eq_nil_iff.1 split.symm
    refine ⟨fun id => ?_, fun t rest more => nomatch more⟩
    rw [List.append_nil, ← tallied.attempts]
    exact tallied.within id
  | cons c cs ih =>
    obtain ⟨told, counts, deeds⟩ := counts_tryOnce keeps c w (tallied.within c.message.id)
    rw [tallied.attempts] at counts
    have moves := counts.moves
    have roomNow := room [tryOnce o bound own c w] (List.prefix_append [_] _)
    obtain ⟨others, later⟩ := tallied.after (t := tryOnce o bound own c w) moves roomNow
    cases before with
    | nil =>
      rw [List.append_nil]
      refine ⟨fun id => tallied.attempts id ▸ tallied.within id, fun t rest more => ?_⟩
      cases split.trans more
      refine ⟨?_, tallied.attempts c.message.id, others, told, counts, deeds⟩
      exact tallied.attempts c.message.id ▸ tallied.within c.message.id
    | cons first before =>
      obtain ⟨rfl, rest⟩ := List.cons.inj split
      have along := ih later (fun early begins => ?_) rest
      · rwa [List.append_assoc, List.singleton_append] at along
      · rw [List.append_assoc, List.singleton_append, moves.capacity]
        exact room _ (List.cons_prefix_cons.2 ⟨rfl, begins⟩)

theorem map_id_tryAll (o : Outside σ) (bound : Nat) (own : List Stage) (cs : List Context)
    (w : World σ) :
    (tryAll o bound own cs w).map (·.id) = cs.map (·.message.id) := by
  induction cs generalizing w with
  | nil => rfl
  | cons c cs ih => exact congrArg (c.message.id :: ·) (ih _)

theorem room_of_few {cs : List Context} {room : Nat}
    (few : (cs.map (·.message.id)).dedup.length ≤ room) {early : List (Trial σ)}
    (begins : early <+: tryAll o bound own cs w) : (failing early).length ≤ room := by
  have among : (early.map (·.id)).dedup ⊆ (cs.map (·.message.id)).dedup := by
    intro id member
    rw [List.mem_dedup] at member ⊢
    rw [← map_id_tryAll o bound own cs w]
    exact (begins.map _).subset member
  have fewer := ((early.map (·.id)).nodup_dedup.subperm among).length_le
  exact Nat.le_trans (length_failing early) (Nat.le_trans fewer few)

/-- For each message the stage counts the failures that can be retried since the message succeeded
or such a failure of it was passed on. A failure below the bound is absorbed and raises the count,
one at the bound is passed on, and a body that cannot be read is passed on as it is. So a message is
absorbed no more often than the bound between two of its successes or failures passed on. -/
theorem each_message_counted (o : Outside σ) (bound capacity : Nat) {own : List Stage}
    (keeps : o.KeepsTable own) (cs : List Context) (s : σ)
    (room : ∀ early, early <+: tryAll o bound own cs ⟨.ofCapacity capacity, s⟩ →
      (failing early).length ≤ max capacity 1) :
    (∀ before t after,
      tryAll o bound own cs ⟨.ofCapacity capacity, s⟩ = before ++ t :: after →
      t.Obeys bound (failuresSinceSettled t.id before)) ∧
    ∀ id before between after,
      tryAll o bound own cs ⟨.ofCapacity capacity, s⟩ = before ++ between ++ after →
      (∀ t ∈ between, t.id = id → t.settled = false) →
      (between.countP fun t => t.id = id && t.absorbed) ≤ bound := by
  have run {before after : List (Trial σ)}
      (split : tryAll o bound own cs ⟨.ofCapacity capacity, s⟩ = before ++ after) :=
    obeys_tryAll keeps (tallied_start bound capacity) room split
  refine ⟨fun before t after split => (run split).2 t after rfl,
    fun id before between after split unsettled => ?_⟩
  have failed : ∀ t ∈ between, t.id = id && t.absorbed → t.id = id && t.failedRetryably := by
    intro t member absorbed
    obtain ⟨early, late, rfl⟩ := List.append_of_mem member
    have here : tryAll o bound own cs ⟨.ofCapacity capacity, s⟩ =
        (before ++ early) ++ t :: (late ++ after) := by
      rw [split]
      simp
    obtain ⟨told, counts, deeds⟩ := ((run here).2 t _ rfl).counts
    simp only [Bool.and_eq_true] at absorbed ⊢
    exact ⟨absorbed.1, counts.moves.of_absorbed absorbed.2⟩
  calc (between.countP fun t => t.id = id && t.absorbed)
      ≤ between.countP fun t => t.id = id && t.failedRetryably := List.countP_mono_left failed
    _ ≤ failuresSinceSettled id (before ++ between) := by
      rw [failures_append_all id before unsettled]
      exact Nat.le_add_left _ _
    _ ≤ bound := (run split).1 id

end run

def wavering : Cast where
  handlers := [{
    name := "Billing"
    own := [
      ("a", {
        acts := [{ failure := some Cast.declined },
          { failure := some { source := .deserialization "a" "no object" } },
          { failure := some Cast.declined }] }),
      ("b", { acts := [{ failure := some Cast.declined }] })] }]
  clock := ⟨0, 0⟩

def waveringContexts : List Context :=
  ["a", "b", "a", "a", "a", "b"].map fun id =>
    { message := .received id .empty [], address := "orders" }

def waveringTrials : List (Trial CastState) :=
  tryAll wavering.outside 1 (handlerStages [(0, "Billing")]) waveringContexts ⟨.ofCapacity 2, {}⟩

theorem wavering_counted :
    (∀ early, early <+: waveringTrials → (failing early).length ≤ max 2 1) ∧
    (waveringTrials.map fun t => (t.absorbed, t.settled, t.outer.world.table.attempts t.id)) =
      [(true, false, 1), (true, false, 1), (false, false, 1), (false, true, 0), (false, true, 0),
        (false, true, 0)] ∧
    (∀ before t after, waveringTrials = before ++ t :: after →
      t.Obeys 1 (failuresSinceSettled t.id before)) ∧
    ∀ id before between after, waveringTrials = before ++ between ++ after →
      (∀ t ∈ between, t.id = id → t.settled = false) →
      (between.countP fun t => t.id = id && t.absorbed) ≤ 1 := by
  have keeps : wavering.outside.KeepsTable (handlerStages [(0, "Billing")]) :=
    keepsTable_of_leavesAlone _ (ReceivePipeline.handlerStages_leaveAlone _)
  have room (early : List (Trial CastState)) (begins : early <+: waveringTrials) :
      (failing early).length ≤ max 2 1 := room_of_few (by decide) begins
  exact ⟨room, rfl, each_message_counted wavering.outside 1 2 keeps waveringContexts {} room⟩

end Redelivery
