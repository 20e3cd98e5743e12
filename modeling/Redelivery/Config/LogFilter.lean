import Redelivery.Config.LogRule

/-! Which log entries are shown. A filter is a list of rules between commas; the closest rule
that covers an entry decides about it, the last one among equals. -/
namespace Redelivery

abbrev LogFilter := List LogRule

namespace LogFilter

def ofText (s : String) : Except LogRuleFault LogFilter := do
  let parts := (Text.split ',' s.toList).filter fun part => !part.isEmpty
  if parts.isEmpty then return [{ bound := some .error }]
  parts.mapM LogRule.ofText

def deciding (f : LogFilter) (e : LogEntry) : Option LogRule :=
  (f.filter (·.covers e)).foldl
    (fun best rule =>
      match best with
      | none => some rule
      | some old => some (if old.yieldsTo rule then rule else old)) none

def shows (f : LogFilter) (e : LogEntry) : Bool :=
  match (f.deciding e).bind (·.bound) with
  | some bound => e.level.within bound
  | none => false

end LogFilter
end Redelivery
