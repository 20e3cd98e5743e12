import Redelivery.Exchange

/-! A caller who uses the transport step by step. Only two steps take time, waiting for a message
and letting time pass; meanwhile couriers have their turns. -/
namespace Redelivery

inductive TransportStep where
  | send (address : String) (m : Outgoing)
  | dispatch (op : Operation)
  | receive (address : String) (poll : Duration)
  | complete (address : String)
  | giveBack (address : String) (m : Incoming)
  /-- Gives back the message received at a position, with another body if there is one. -/
  | abandon (address : String) (held : Nat) (body : Option Bytes)
  | unavailable (address : String) (value : Bool)
  | advance (length : Duration)
  | look

inductive TransportAnswer where
  | nothing
  | dispatched (failure : Option Failure)
  | received (m : Option Incoming)

structure TransportSession where
  exchange : Exchange := { listener := .host }
  held : List Incoming := []
  log : List LogEntry := []

namespace TransportSession

def untilHost : Nat → Exchange → Exchange
  | 0, x => x
  | turns + 1, x =>
    match x.agenda.next? with
    | none => x
    | some (.courier number, agenda) => untilHost turns ({ x with agenda }.courierTurn number)
    | some (_, agenda) => { x with agenda }

def wait (x : Exchange) : Exchange := untilHost (2 * x.transport.parcels.length + 1) x

def receive (x : Exchange) (address : String) (poll : Duration) : Option Incoming × Exchange :=
  match x.tryReceive address with
  | (some m, x) => (m, x)
  | (none, x) =>
    let time := x.agenda.due poll
    let x := x.listen address time
    match (if poll.isZero then x else wait x).hear address time with
    | (some m, x) => (m, x)
    | (none, x) => (none, x.leave address)

def step (s : TransportSession) : TransportStep → TransportSession × TransportAnswer
  | .send address m => ({ s with exchange := s.exchange.send address m }, .nothing)
  | .dispatch op =>
    let (reply, exchange) := s.exchange.dispatch op
    ({ s with exchange, log := s.log ++ reply.log }, .dispatched reply.failure)
  | .receive address poll =>
    let (m, exchange) := receive s.exchange address poll
    ({ s with exchange, held := s.held ++ m.toList }, .received m)
  | .complete address =>
    let b := (s.exchange.mailbox address).complete
    ({ s with exchange := s.exchange.setMailbox address b }, .nothing)
  | .giveBack address m => ({ s with exchange := s.exchange.push address m }, .nothing)
  | .abandon address held body =>
    match s.held[held]? with
    | none => (s, .nothing)
    | some m =>
      let m := (body.map m.updateBody).getD m
      ({ s with exchange := s.exchange.push address m }, .nothing)
  | .unavailable address value =>
    ({ s with exchange := s.exchange.setUnavailable address value }, .nothing)
  | .advance length =>
    let x := s.exchange
    if length.isZero then (s, .nothing)
    else ({ s with exchange := wait (x.sleepUntil .host (x.agenda.due length)) }, .nothing)
  | .look => (s, .nothing)

end TransportSession
end Redelivery
