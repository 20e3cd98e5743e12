import Redelivery.Notification
import Redelivery.Whole

/-! Counters of an endpoint and the lines in which they are shown. Every notification counts once
in the series of its kind and the category of its failure; every message the receiver is done
with counts as a success or under the category of its failure. -/
namespace Redelivery

structure Series where
  name : String
  labels : List (String × String) := []
  deriving DecidableEq, Repr

namespace Series

def escapeValue : Bool → List Char → List Char
  | held, [] => if held then ['\\', '\\'] else []
  | held, c :: rest =>
    if c = '\n' then '\\' :: 'n' :: escapeValue held rest
    else if c = '"' then '\\' :: '"' :: escapeValue false rest
    else
      let before := if held then ['\\', '\\'] else []
      if c = '\\' then before ++ escapeValue (!held) rest
      else before ++ c :: escapeValue false rest

def labelText (label : String × String) : String :=
  label.1 ++ "=\"" ++ String.ofList (escapeValue false label.2.toList) ++ "\""

def text (s : Series) : String :=
  if s.labels.isEmpty then s.name
  else s.name ++ "\x7b" ++ ",".intercalate (s.labels.map labelText) ++ "\x7d"

def kindName : Notification.Kind → String
  | .immediateRetry => "recoverability_immediate_retries_total"
  | .delayedRetry => "recoverability_delayed_retries_total"
  | .faulted => "recoverability_messages_faulted_total"

def processedName : String := "recoverability_messages_processed_total"
def durationName : String := "recoverability_message_duration_seconds"
def criticalName : String := "recoverability_critical_errors_total"

def ofNotification (endpoint : String) (n : Notification) : Series :=
  ⟨kindName n.kind, [("endpoint", endpoint), ("category", n.failure.category.name)]⟩

def succeeded (endpoint : String) : Series :=
  ⟨processedName, [("endpoint", endpoint), ("status", "success")]⟩

def failed (endpoint : String) (category : Category) : Series :=
  ⟨processedName, [("endpoint", endpoint), ("status", "failed"), ("category", category.name)]⟩

def measured (endpoint : String) : Series :=
  ⟨durationName ++ "_count", [("endpoint", endpoint)]⟩

def critical : Series := ⟨criticalName, []⟩

def help : String → Option String
  | "recoverability_immediate_retries_total" => some "Messages retried in-process"
  | "recoverability_delayed_retries_total" =>
    some "Messages sent back to their queue with a delay"
  | "recoverability_messages_faulted_total" => some "Messages moved to the error queue"
  | "recoverability_critical_errors_total" =>
    some "Failures the pipeline could not recover from"
  | "recoverability_message_duration_seconds" =>
    some "Time to settle a message, including in-process retries"
  | _ => none

def metric (s : Series) : String :=
  if s.name = durationName ++ "_count" then durationName else s.name

def about (metric : String) : List String :=
  (match help metric with
    | some meaning => ["# HELP " ++ metric ++ " " ++ meaning]
    | none => []) ++
  ["# TYPE " ++ metric ++ (if metric = durationName then " summary" else " counter")]

end Series

inductive Measure where
  | notified (n : Notification)
  | succeeded
  | failed (category : Category)
  | critical
  deriving DecidableEq

def Measure.series (endpoint : String) : Measure → List Series
  | .notified n => [.ofNotification endpoint n]
  | .succeeded => [.succeeded endpoint, .measured endpoint]
  | .failed category => [.failed endpoint category]
  | .critical => [.critical]

abbrev Counters := List (Series × Nat)

namespace Counters

def increment (c : Counters) (s : Series) : Counters :=
  match c with
  | [] => [(s, 1)]
  | (t, n) :: rest => if t = s then (t, n + 1) :: rest else (t, n) :: increment rest s

def value (c : Counters) (s : Series) : Nat := (c.lookup s).getD 0

def ofMeasures (endpoint : String) (measures : List Measure) : Counters :=
  (measures.flatMap (Measure.series endpoint)).foldl increment []

def lines (c : Counters) : List String :=
  let shown := c.filter fun e => e.1.metric ≠ Series.durationName
  (shown.map fun e => e.1.text ++ " " ++ Whole.text e.2).mergeSort (· ≤ ·)

def about (c : Counters) : List String :=
  ((c.map (·.1.metric)).eraseDups.flatMap Series.about).mergeSort (· ≤ ·)

end Counters
end Redelivery
