import Redelivery.Config.Settings
import Redelivery.Demo.Order

/-! The messages the demo endpoint sends itself: one order for each entry of a plan of failures,
and one body that breaks off in the middle. -/
namespace Redelivery.Demo

def settings : Settings :=
  { Settings.forAddress "demo-endpoint" with immediateRetries := 2 }.withDelayedRetries 2
    (.ofSeconds 1)

/-- How often each order fails before it goes through; the last but one never does. -/
def failurePlan : List Nat := [0, 1, 2, 3, 0, 1, Whole.max32, 0]

def orders : List Order :=
  failurePlan.zipIdx.map fun (failures, number) =>
    ⟨number, "SKU-" ++ String.ofList (Whole.padded 3 number), failures⟩

def malformed : Bytes := "\x7b\"order\": ".toUTF8.toList

def bodies : List Bytes := orders.map Order.body ++ [malformed]

def batch (ids : Nat → String) : List Outgoing :=
  bodies.zipIdx.map fun (body, n) => ⟨ids n, .empty, body⟩

end Redelivery.Demo
