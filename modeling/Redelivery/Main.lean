import Redelivery.Demo.Program
import Redelivery.Json.Printer

/-! The demo endpoint as an executable. It takes its settings from the environment, prints what is
logged, and what went wrong if it could not run. -/
namespace Redelivery.Demo

def variableNames : List String :=
  ["APP_ENV", "RUST_LOG", "ENDPOINT_NAME", "ERROR_QUEUE", "FLR_MAX_RETRIES", "SLR_ENABLED",
   "SLR_NUMBER_OF_RETRIES", "SLR_TIME_INCREASE_SECS", "TRANSPORT_TRANSACTION_MODE",
   "MAX_CONCURRENCY", "FAILURE_STORAGE_CAPACITY", "SEND_ONLY"]

def printValue : LogValue → List Char
  | .text s => Json.printText s
  | .number n => Whole.decimal n

def recordLine (e : LogEntry) : String :=
  String.ofList (Json.printObject
    ([("level", Json.printText e.level.name), ("message", Json.printText e.text)] ++
      e.fields.map fun f => (f.1, printValue f.2)))

def plainLine (e : LogEntry) : String :=
  e.level.name ++ " " ++ e.target ++ ": " ++ e.text ++
    String.join (e.fields.map fun f => ", " ++ f.1 ++ ": " ++ String.ofList (printValue f.2))

def failureText : List String → String
  | [] => ""
  | text :: causes => "Error: " ++ Report.rendered ⟨text, causes⟩

end Redelivery.Demo

open Redelivery Redelivery.Demo in
def main : IO UInt32 := do
  let mut vars : Variables := []
  for name in variableNames do
    if let some value ← IO.getEnv name then
      vars := vars ++ [(name, value.toUTF8.toList)]
  let start ← IO.rand 0 4611686018427387904
  -- No time stamp is ever shown, so all are of one moment.
  let outcome := Program.outcome vars
    (fun n => String.ofList (Text.hexadecimal (start + n))) (⟨0, 0⟩ : Instant)
  for e in outcome.log do
    IO.println (if outcome.structured then recordLine e else plainLine e)
  unless outcome.failed.isEmpty do
    IO.eprintln (failureText outcome.failed)
  return outcome.exitCode.toUInt32
