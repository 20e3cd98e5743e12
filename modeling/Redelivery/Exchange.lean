import Redelivery.Agenda
import Redelivery.Pipeline.World
import Redelivery.Transport

/-! The transport under the clock. Each parcel has a courier, who starts its time when it is first
his turn and delivers it at his second turn. A listener at a mailbox is put in line when a
message arrives. -/
namespace Redelivery

inductive Activity where
  /-- The one who runs the endpoint. -/
  | host
  | receiver
  | settler (task : Nat)
  | worker (task : Nat)
  | courier (parcel : Nat)
  deriving DecidableEq, Repr

structure Exchange where
  agenda : Agenda Activity := {}
  transport : Transport := {}
  listener : Activity

namespace Exchange

def now (x : Exchange) : Nat := x.agenda.now

def wake (x : Exchange) (a : Activity) : Exchange := { x with agenda := x.agenda.wake a }
def resume (x : Exchange) (a : Activity) : Exchange := { x with agenda := x.agenda.resume a }
def cancel (x : Exchange) (a : Activity) : Exchange := { x with agenda := x.agenda.cancel a }

def sleepUntil (x : Exchange) (a : Activity) (time : Nat) : Exchange :=
  { x with agenda := x.agenda.sleepUntil a time }

def mailbox (x : Exchange) (address : String) : Mailbox := x.transport.mailbox address

def setMailbox (x : Exchange) (address : String) (b : Mailbox) : Exchange :=
  { x with transport := x.transport.setMailbox address b }

def after (x : Exchange) (change : Transport × Bool) : Exchange :=
  let x := { x with transport := change.1 }
  if change.2 then x.wake x.listener else x

def push (x : Exchange) (address : String) (m : Incoming) : Exchange :=
  x.after (x.transport.push address m)

def send (x : Exchange) (address : String) (m : Outgoing) : Exchange := x.push address m.toIncoming

def setUnavailable (x : Exchange) (address : String) (value : Bool) : Exchange :=
  { x with transport := x.transport.setUnavailable address value }

def dispatch (x : Exchange) (op : Operation) : DispatchReply × Exchange :=
  let (transport, posting) := x.transport.post op
  let log := Transport.postLog op posting
  match posting with
  | .refused failure => ({ failure := some failure, log }, x)
  | .arrived roused => ({ log }, x.after (transport, roused))
  | .onItsWay number => ({ log }, { x with transport }.wake (.courier number))

def courierTurn (x : Exchange) (number : Nat) : Exchange :=
  match x.transport.parcel? number with
  | none => x
  | some p =>
    if p.started then x.after (x.transport.deliver p)
    else
      { x with transport := x.transport.start number }.sleepUntil (.courier number)
        (x.agenda.due p.wait)

/-- A receiver's first try at a mailbox: a message, or nothing because of an old knock. Without
either the receiver must wait. -/
def tryReceive (x : Exchange) (address : String) : Option (Option Incoming) × Exchange :=
  let b := x.mailbox address
  match b.pop with
  | (some m, b) => (some (some m), x.setMailbox address b)
  | (none, b) =>
    if b.knocked then (some none, x.setMailbox address { b with knocked := false })
    else (none, x)

def listen (x : Exchange) (address : String) (time : Nat) : Exchange :=
  (x.setMailbox address { x.mailbox address with listener := .waiting }).sleepUntil x.listener time

def leave (x : Exchange) (address : String) : Exchange :=
  (x.setMailbox address (x.mailbox address).leave).cancel x.listener

def hear (x : Exchange) (address : String) (time : Nat) : Option (Option Incoming) × Exchange :=
  let b := x.mailbox address
  if b.listener = .roused then
    let (m, b) := b.answer.pop
    (some m, (x.setMailbox address b).cancel x.listener)
  else if time ≤ x.now then
    let (m, b) := b.leave.pop
    (some m, (x.setMailbox address b).cancel x.listener)
  else (none, x)

end Exchange
end Redelivery
