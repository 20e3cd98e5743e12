/-! The signal that stops a receiver: a flag that its owner sets and sets again, until the owner
goes away. Whoever watches it sees each change once, and the owner's going after all changes. -/
namespace Redelivery

structure Signal where
  value : Bool := false
  /-- There is a change that was not seen yet. -/
  changed : Bool := false
  gone : Bool := false
  deriving DecidableEq, Repr

namespace Signal

def send (s : Signal) (value : Bool) : Signal :=
  if s.gone then s else { s with value, changed := true }

def drop (s : Signal) : Signal := { s with gone := true }

inductive News where
  | none
  | changed
  | gone
  deriving DecidableEq, Repr

def news (s : Signal) : News :=
  if s.changed then .changed else if s.gone then .gone else .none

def seen (s : Signal) : Signal := { s with changed := false }

end Signal
end Redelivery
