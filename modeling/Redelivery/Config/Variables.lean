import Redelivery.Config.Settings
import Redelivery.Message
import Redelivery.Whole

/-! Settings from environment variables. A value that is not UTF-8 counts as not set. Names are
taken as they are; every other value is read without the white space around it. The variables
are read in the order of the fields and the first fault is reported. -/
namespace Redelivery

abbrev Variables := List (String × Bytes)

namespace Variables

def text? (vars : Variables) (name : String) : Option String :=
  match vars.lookup name with
  | none => none
  | some bytes => String.fromUTF8? ⟨bytes.toArray⟩

def orDefault (vars : Variables) (name default : String) : String :=
  (vars.text? name).getD default

def required (vars : Variables) (name : String) : Except ConfigError String :=
  match vars.text? name with
  | some value => .ok value
  | none => .error (.missing name)

def read {α : Type} (vars : Variables) (name : String) (default : α)
    (reader : List Char → Except String α) : Except ConfigError α :=
  match vars.text? name with
  | none => .ok default
  | some value =>
    match reader (Text.trim value.toList) with
    | .ok a => .ok a
    | .error details => .error (.unreadable name details)

end Variables

namespace Reader

def nat (limit : Nat) (cs : List Char) : Except String Nat :=
  (Whole.readNat limit cs).mapError Whole.Fault.message

def int (lowest limit : Nat) (cs : List Char) : Except String Int :=
  (Whole.readInt lowest limit cs).mapError Whole.Fault.message

def word32 (cs : List Char) : Except String UInt32 := (nat Whole.max32 cs).map UInt32.ofNat
def word64 (cs : List Char) : Except String UInt64 := (nat Whole.max64 cs).map UInt64.ofNat

def bool (cs : List Char) : Except String Bool :=
  if cs = "true".toList then .ok true
  else if cs = "false".toList then .ok false
  else .error "provided string was not `true` or `false`"

def char : List Char → Except String Char
  | [] => .error "cannot parse char from empty string"
  | [c] => .ok c
  | _ => .error "too many characters in string"

def text (cs : List Char) : Except String String := .ok (String.ofList cs)

def mode (cs : List Char) : Except String TransactionMode :=
  match TransactionMode.ofName? (String.ofList cs) with
  | some mode => .ok mode
  | none => .error "Matching variant not found"

end Reader

namespace Settings

def ofVariables (vars : Variables) : Except ConfigError Settings := do
  let defaults : Settings := {}
  let address ← vars.required "ENDPOINT_NAME"
  let errorQueue := vars.orDefault "ERROR_QUEUE" defaults.errorQueue
  let immediateRetries ← vars.read "FLR_MAX_RETRIES" defaults.immediateRetries Reader.word32
  let enabled ← vars.read "SLR_ENABLED" defaults.delayed.enabled Reader.bool
  let retries ← vars.read "SLR_NUMBER_OF_RETRIES" defaults.delayed.retries Reader.word32
  let increase ← vars.read "SLR_TIME_INCREASE_SECS" defaults.delayed.increase.seconds
    (Reader.nat Whole.max64)
  let mode ← vars.read "TRANSPORT_TRANSACTION_MODE" defaults.mode Reader.mode
  let concurrency ← vars.read "MAX_CONCURRENCY" defaults.concurrency Reader.word64
  let capacity ← vars.read "FAILURE_STORAGE_CAPACITY" defaults.capacity Reader.word64
  let sendOnly ← vars.read "SEND_ONLY" defaults.sendOnly Reader.bool
  let settings : Settings :=
    { address, errorQueue, immediateRetries, mode, concurrency, capacity, sendOnly,
      delayed := { enabled, retries, increase := .ofSeconds increase } }
  settings.validate
  return settings

end Settings
end Redelivery
