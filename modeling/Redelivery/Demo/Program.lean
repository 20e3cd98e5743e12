import Redelivery.Config.Environment
import Redelivery.Config.LogFilter
import Redelivery.Demo.Endpoint

/-! The demo as a program: its settings come from environment variables, or are the demo's own if
no endpoint is named. At the end it lists the error queue and its counters. -/
namespace Redelivery.Demo

structure Outcome where
  exitCode : Nat
  failed : List String := []
  /-- Log entries are written as records, not for reading. -/
  structured : Bool
  log : List LogEntry
  counters : Counters := []

namespace Program

def filterOf? (vars : Variables) (e : Environment) : Option LogFilter :=
  match (vars.text? "RUST_LOG").map LogFilter.ofText with
  | some (.ok filter) => some filter
  | some (.error .broken) => none
  | some (.error .malformed) | none => (LogFilter.ofText e.defaultFilter).toOption

def settingsOf (vars : Variables) : Except ConfigError (Settings × List LogEntry) :=
  match Settings.ofVariables vars with
  | .ok s => .ok (s, [])
  | .error (.missing name) =>
    .ok (settings, [entry .info "Endpoint not configured, using demo configuration"
      [("key", .text name)]])
  | .error e => .error e

def startEntries (e : Environment) : List LogEntry :=
  [{ level := .info, text := "Tracing initialized. Environment: " ++ e.name,
     target := "core_config::tracing" },
   entry .info "Starting demo endpoint", entry .info ("Environment: " ++ e.name)]

def errorQueueText : String := "Message in error queue"
def stoppedText : String := "Demo endpoint stopped"

def errorQueueEntry (m : Incoming) : LogEntry :=
  let field (key : String) : LogValue := .text ((m.headers.get? key).getD "")
  entry .warn errorQueueText
    [("message_id", .text m.id), ("exception_type", field Headers.exceptionType),
     ("exception_message", field Headers.exceptionMessage),
     ("immediate_retries", field Headers.immediateRetries)]

def stoppedEntry (s : Summary) : LogEntry :=
  entry .info stoppedText
    [("sent", .number s.sent), ("reserved", .number s.reserved), ("faulted", .number s.faulted)]

def metricsHeading : String := "Metrics:\n"

def endEntries (s : Summary) (counters : Counters) : List LogEntry :=
  s.errorQueue.map errorQueueEntry ++
  [stoppedEntry s, entry .info (metricsHeading ++ "\n".intercalate counters.lines)]

def filtered (filter : LogFilter) (environment : Environment) (vars : Variables)
    (ids : Nat → String) (clock : Clock) : Outcome :=
  let structured := environment.isProduction
  let shown (log : List LogEntry) := (startEntries environment ++ log).filter filter.shows
  match settingsOf vars with
  | .error e =>
    { exitCode := 1, structured, log := shown []
      failed := ["Failed to load recoverability configuration", e.message] }
  | .ok (s, noted) =>
    match run s ids clock none with
    | .error (.settings e) =>
      { exitCode := 1, structured, log := shown noted, failed := buildFailed e }
    | .error (.tooManyPermits ready) =>
      { exitCode := 101, structured, log := shown (noted ++ ready) }
    | .error .endless => { exitCode := 101, structured, log := shown noted }
    | .ok summary =>
      let counters := Counters.ofMeasures s.address summary.measures
      { exitCode := 0, structured, counters
        log := shown (noted ++ summary.log ++ endEntries summary counters) }

def outcome (vars : Variables) (ids : Nat → String) (clock : Clock) : Outcome :=
  let environment := Environment.ofVariables vars
  match filterOf? vars environment with
  | some filter => filtered filter environment vars ids clock
  | none => { exitCode := 101, structured := environment.isProduction, log := [] }

end Program
end Redelivery.Demo
