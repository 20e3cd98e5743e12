import Redelivery.Failure
import Redelivery.Log
import Redelivery.Operation
import Redelivery.Transport.Mailbox

/-! Mailboxes at addresses, and messages on their way to them. A dispatch to an address that is
unavailable fails; one without delay arrives at once; any other is on its way until its time has
passed, whatever becomes of the address meanwhile. -/
namespace Redelivery

structure Parcel where
  number : Nat
  address : String
  message : Incoming
  wait : Duration
  started : Bool := false
  deriving DecidableEq

structure Transport where
  mailboxes : List (String × Mailbox) := []
  unavailable : List String := []
  parcels : List Parcel := []
  next : Nat := 0
  deriving DecidableEq

inductive Posting where
  | refused (failure : Failure)
  | arrived (roused : Bool)
  | onItsWay (number : Nat)

namespace Transport

def mailbox (t : Transport) (address : String) : Mailbox := (t.mailboxes.lookup address).getD {}

def putMailbox (address : String) (b : Mailbox) :
    List (String × Mailbox) → List (String × Mailbox)
  | [] => [(address, b)]
  | (other, old) :: rest =>
    if other = address then (address, b) :: rest else (other, old) :: putMailbox address b rest

def setMailbox (t : Transport) (address : String) (b : Mailbox) : Transport :=
  { t with mailboxes := putMailbox address b t.mailboxes }

/-- A message arrives at an address. The second part says whether a listener was roused. -/
def push (t : Transport) (address : String) (m : Incoming) : Transport × Bool :=
  let (b, roused) := (t.mailbox address).push m
  (t.setMailbox address b, roused)

def setUnavailable (t : Transport) (address : String) (value : Bool) : Transport :=
  if value then { t with unavailable := address :: t.unavailable }
  else { t with unavailable := t.unavailable.filter (· ≠ address) }

def isAvailable (t : Transport) (address : String) : Bool := address ∉ t.unavailable

def refusal (op : Operation) : Failure :=
  .dispatch op.message.id op.destination "queue unavailable"

def post (t : Transport) (op : Operation) : Transport × Posting :=
  if t.isAvailable op.destination then
    if op.wait.isZero then
      let (t, roused) := t.push op.destination op.message.toIncoming
      (t, .arrived roused)
    else
      let parcel : Parcel := ⟨t.next, op.destination, op.message.toIncoming, op.wait, false⟩
      ({ t with parcels := t.parcels ++ [parcel], next := t.next + 1 }, .onItsWay t.next)
  else (t, .refused (refusal op))

def postLog (op : Operation) : Posting → List LogEntry
  | .refused _ => []
  | .arrived _ =>
    [{ level := .trace, text := "Enqueued",
       fields := [("message_id", .text op.message.id), ("destination", .text op.destination)] }]
  | .onItsWay _ =>
    [{ level := .debug, text := "Delivery delayed",
       fields := [("message_id", .text op.message.id), ("destination", .text op.destination),
                  ("delay_ms", .number op.wait.millis64)] }]

def parcel? (t : Transport) (number : Nat) : Option Parcel :=
  t.parcels.find? (·.number = number)

def start (t : Transport) (number : Nat) : Transport :=
  { t with parcels := t.parcels.map fun p =>
      if p.number = number then { p with started := true } else p }

def deliver (t : Transport) (p : Parcel) : Transport × Bool :=
  { t with parcels := t.parcels.filter (·.number ≠ p.number) }.push p.address p.message

end Transport
end Redelivery
