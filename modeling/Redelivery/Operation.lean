import Redelivery.Message
import Redelivery.Time.Duration

/-! A message bound for an address. Each constraint is a time that must pass before delivery. -/
namespace Redelivery

structure Operation where
  message : Outgoing
  destination : String
  delays : List Duration := []
  deriving DecidableEq

namespace Operation

/-- The delay asked for: the first constraint, if there is one. -/
def delay? (op : Operation) : Option Duration := op.delays.head?

def wait (op : Operation) : Duration := Duration.longestOf op.delays

end Operation
end Redelivery
