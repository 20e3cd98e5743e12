/-! Log entries: how severe they are, which part of the program writes them, a text, and named
fields. -/
namespace Redelivery

inductive LogLevel where
  | error
  | warn
  | info
  | debug
  | trace
  deriving DecidableEq, Repr

namespace LogLevel

def rank : LogLevel → Nat
  | .error => 0
  | .warn => 1
  | .info => 2
  | .debug => 3
  | .trace => 4

def within (level bound : LogLevel) : Bool := level.rank ≤ bound.rank

def name : LogLevel → String
  | .error => "ERROR"
  | .warn => "WARN"
  | .info => "INFO"
  | .debug => "DEBUG"
  | .trace => "TRACE"

def all : List LogLevel := [.error, .warn, .info, .debug, .trace]

end LogLevel

inductive LogValue where
  | text (s : String)
  | number (n : Nat)
  deriving DecidableEq, Repr

structure LogEntry where
  level : LogLevel
  text : String
  fields : List (String × LogValue) := []
  target : String := "recoverability"
  deriving DecidableEq, Repr

def LogEntry.visible (bound : LogLevel) (entries : List LogEntry) : List LogEntry :=
  entries.filter (·.level.within bound)

end Redelivery
