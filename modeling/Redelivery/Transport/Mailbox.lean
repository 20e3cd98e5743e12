import Redelivery.Message

/-! The queue at one address. Messages leave it in the order in which they arrived. Whoever finds
it empty may wait at it and is roused by the next arrival; an arrival that rouses nobody is kept
as a knock, at most one, and whoever would wait next takes the knock instead. -/
namespace Redelivery

inductive Listener where
  | absent
  | waiting
  | roused
  deriving DecidableEq, Repr

structure Mailbox where
  messages : List Incoming := []
  listener : Listener := .absent
  knocked : Bool := false
  completed : Nat := 0
  deriving DecidableEq, Inhabited

namespace Mailbox

def push (b : Mailbox) (m : Incoming) : Mailbox × Bool :=
  let b := { b with messages := b.messages ++ [m] }
  if b.listener = .waiting then ({ b with listener := .roused }, true)
  else ({ b with knocked := true }, false)

def pop (b : Mailbox) : Option Incoming × Mailbox :=
  match b.messages with
  | [] => (none, b)
  | m :: messages => (some m, { b with messages })

def answer (b : Mailbox) : Mailbox := { b with listener := .absent }

/-- The listener goes away; if it was roused meanwhile, that stays as a knock. -/
def leave (b : Mailbox) : Mailbox :=
  { b with listener := .absent, knocked := b.knocked || b.listener = .roused }

def complete (b : Mailbox) : Mailbox := { b with completed := b.completed + 1 }

end Mailbox
end Redelivery
