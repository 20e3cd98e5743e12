import Redelivery.Failure
import Redelivery.Log
import Redelivery.Whole
import Std.Data.ExtTreeMap

/-! What is remembered about the failures of each message: how often it failed since it was last
forgotten, the last failure, and what is to be done on the next delivery. The table is bounded.
Every record of a failure stamps its row with a clock that only grows; when a new message would
make the table too long, the row with the oldest stamp among the others is dropped. -/
namespace Redelivery

structure FailureRecord where
  /-- Counted here without end. The count is kept in 32 bits; pipelines that allow fewer than
  4294967295 immediate retries never count so far, and others would panic at the end of the count,
  or begin again at zero where sums are not checked. -/
  attempts : Nat
  failure : Failure
  /-- The next delivery forwards the message to the error queue. -/
  toErrorQueue : Bool
  /-- The next delivery sends the message back with a delay. -/
  toDelay : Bool
  deriving DecidableEq, Repr

structure FailureRow where
  record : FailureRecord
  stamp : Nat
  deriving DecidableEq, Repr

structure FailureTable where
  /-- The rows by the ids of their messages. -/
  rows : Std.ExtTreeMap String FailureRow := ∅
  capacity : Nat
  /-- How many failures were recorded. The clock has 64 bits and then begins again, after which the
  newest row would be dropped for the oldest; no table lives that long. -/
  clock : Nat := 0

namespace FailureTable

def ofCapacity (capacity : Nat) : FailureTable := { capacity := max capacity 1 }

def size (t : FailureTable) : Nat := t.rows.size

def lookup (t : FailureTable) (id : String) : Option FailureRecord := (t.rows[id]?).map (·.record)

def clear (t : FailureTable) (id : String) : FailureTable := { t with rows := t.rows.erase id }

def older (keep : String) (best : Option (String × Nat)) (id : String) (row : FailureRow) :
    Option (String × Nat) :=
  let isOlder := match best with
    | none => true
    | some other => row.stamp < other.2
  if isOlder && id ≠ keep then some (id, row.stamp) else best

def oldest (t : FailureTable) (keep : String) : Option (String × Nat) :=
  t.rows.foldl (older keep) none

/-- Drops the oldest row of another message if the table is too long. Rows come one by one, so that
one is enough. -/
def evict (t : FailureTable) (keep : String) : FailureTable × Option String :=
  if t.size ≤ t.capacity then (t, none)
  else
    match t.oldest keep with
    | none => (t, none)
    | some (id, _) => (t.clear id, some id)

def again (r : FailureRecord) (failure : Failure) (toErrorQueue toDelay : Bool) : FailureRecord :=
  ⟨r.attempts + 1, failure, toErrorQueue, toDelay⟩

/-- Counts one more failure of a message and replaces the decision about it. The second part is
the message whose row had to go. -/
def record (t : FailureTable) (id : String) (failure : Failure) (toErrorQueue toDelay : Bool) :
    FailureTable × Option String :=
  let put (r : FailureRecord) : FailureTable :=
    { t with rows := t.rows.insert id ⟨r, t.clock⟩, clock := t.clock + 1 }
  match t.lookup id with
  | some r => (put (again r failure toErrorQueue toDelay), none)
  | none => evict (put ⟨1, failure, toErrorQueue, toDelay⟩) id

def evictionLog (t : FailureTable) : Option String → List LogEntry
  | none => []
  | some id =>
    [{ level := .debug, text := "Evicting failure record",
       fields := [("message_id", .text id), ("capacity", .number t.capacity)] }]

end FailureTable
end Redelivery
