import Redelivery.Demo.Order
import Redelivery.Failure.Pool
import Redelivery.Pipeline.Flow

/-! The handler of the demo endpoint. It reserves stock for an order and fails as often as the
order says. Attempts are counted for each message over all its deliveries, so that a message
keeps its failures through immediate and delayed retries. -/
namespace Redelivery.Demo

structure StockRoom where
  attempts : List (String × Nat) := []
  reserved : Nat := 0
  /-- Failures reported so far; each gets an identity of its own. -/
  failures : Nat := 0
  deriving Repr

namespace StockRoom

def handlerName : String := "ReserveStockHandler"

def unavailable (sku : String) (attempt : Nat) : FailureSource :=
  .wrapped "bus_demo_endpoint::handler::StockError"
    ⟨"Warehouse unavailable for " ++ sku ++ " (attempt " ++ Whole.text attempt ++ ")", []⟩

def countAttempt (id : String) : List (String × Nat) → Nat × List (String × Nat)
  | [] => (1, [(id, 1)])
  | (other, n) :: rest =>
    if other = id then (n + 1, (id, n + 1) :: rest)
    else
      let (attempt, rest) := countAttempt id rest
      (attempt, (other, n) :: rest)

def reservedEntry (m : Incoming) (order : Order) (attempt : Nat) : LogEntry :=
  { level := .info, text := "Stock reserved", target := "bus_demo_endpoint::handler",
    fields := [("message_id", .text m.id), ("order", .number order.number),
               ("sku", .text order.sku), ("attempt", .number attempt)] }

def overflowText : String := "attempt to add with overflow"

def handle (m : Incoming) (room : StockRoom) : Handling × StockRoom :=
  let left : Handling := { call := 0, headers := m.headers, body := m.body }
  match Order.ofBody m.body with
  | .error fault => ({ left with outcome := .failed (.deserialization m.id fault.message) }, room)
  | .ok order =>
    let (attempt, attempts) := countAttempt m.id room.attempts
    if Whole.max32 < attempt then ({ left with outcome := .panicked overflowText }, room)
    else if attempt ≤ order.failures then
      ({ left with
          outcome := .failed ((unavailable order.sku attempt).build room.failures) },
        { room with attempts, failures := room.failures + 1 })
    else
      ({ left with log := [reservedEntry m order attempt] },
        { room with attempts, reserved := room.reserved + 1 })

end StockRoom
end Redelivery.Demo
