import Redelivery.Failure
import Redelivery.Log
import Redelivery.Text.Quoted

/-! Failures the pipeline cannot recover from, such as an error queue out of reach. They are
counted, logged, and handed to the action of the host if it gave one. -/
namespace Redelivery

structure Alarm where
  hasAction : Bool
  raised : Nat := 0
  deriving DecidableEq, Repr

namespace Alarm

def raise (a : Alarm) : Alarm := { a with raised := a.raised + 1 }

def entry (text : String) (failure : Failure) : LogEntry :=
  { level := .error, text,
    fields := [("error", .text failure.text), ("category", .text failure.category.name)] }

def description (a : Alarm) : String :=
  Text.described "CriticalError"
    [("has_action", if a.hasAction then "true" else "false"), ("raised", Whole.text a.raised)]

end Alarm
end Redelivery
