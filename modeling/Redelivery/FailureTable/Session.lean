import Redelivery.FailureTable

/-! A table of failures under a sequence of changes, with what is logged about it and the messages
that were named on the way. -/
namespace Redelivery

namespace FailureTable

def recordsOf (t : FailureTable) (ids : List String) : List (String × FailureRecord) :=
  ids.filterMap fun id => (t.lookup id).map fun r => (id, r)

end FailureTable

structure TableSession where
  table : FailureTable
  mentioned : List String := []
  logged : List LogEntry := []

namespace TableSession

def mention (s : TableSession) (id : String) : TableSession :=
  if id ∈ s.mentioned then s else { s with mentioned := s.mentioned ++ [id] }

def record (s : TableSession) (id : String) (f : Failure) (toErrorQueue toDelay : Bool) :
    TableSession :=
  let (table, dropped) := s.table.record id f toErrorQueue toDelay
  { s with table, logged := (s.table.evictionLog dropped).reverse ++ s.logged }

def recordMany (s : TableSession) (idStart : String) (f : Failure) (count : Nat) : TableSession :=
  (List.range count).foldl (fun s n => s.record (idStart ++ Whole.text n) f false false) s

def clear (s : TableSession) (id : String) : TableSession :=
  { s with table := s.table.clear id }

def log (s : TableSession) : List LogEntry := s.logged.reverse

def records (s : TableSession) : List (String × FailureRecord) := s.table.recordsOf s.mentioned

end TableSession
end Redelivery
