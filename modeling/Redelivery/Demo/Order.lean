import Redelivery.Json.Printer
import Redelivery.Json.Values
import Redelivery.Message

/-! Orders to reserve stock, as they travel in message bodies: which order, which article, and how
often the reservation fails before it goes through. -/
namespace Redelivery.Demo

structure Order where
  number : Nat
  sku : String
  failures : Nat
  deriving DecidableEq, Repr

namespace Order

open Json

def printJson (o : Order) : List Char :=
  printObject [("order", Whole.decimal o.number), ("sku", printText o.sku),
    ("fail_times", Whole.decimal o.failures)]

def body (o : Order) : Bytes := (String.ofList o.printJson).toUTF8.toList

structure Draft where
  number : Option Nat := none
  sku : Option String := none
  failures : Option Nat := none

def Draft.order? (d : Draft) : Option Order := do return ⟨← d.number, ← d.sku, ← d.failures⟩

def word : Reader Nat := Reader.natural Whole.max32 "u32"

def fields : List (RecordField Draft) :=
  [⟨"order", (·.number.isSome), fun d => do return { d with number := some (← word) }⟩,
   ⟨"sku", (·.sku.isSome), fun d => do return { d with sku := some (← Reader.text) }⟩,
   ⟨"fail_times", (·.failures.isSome), fun d => do return { d with failures := some (← word) }⟩]

def ofBody (body : Bytes) : Except Fault Order := do
  let draft ← readAll (Reader.record "struct ReserveStock" fields {}) (Text.Utf8.decode body)
  match draft.order? with
  | some order => return order
  | none => throw { complaint := .endInValue }

end Order
end Redelivery.Demo
