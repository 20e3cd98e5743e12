import Redelivery.Config.Error
import Redelivery.Config.TransactionMode
import Redelivery.Text.Blank
import Redelivery.Time.Duration

/-! The settings of an endpoint. Names must not be blank and at least one message must be allowed
in flight; the first fault in the order of the fields is the one reported. -/
namespace Redelivery

structure DelayedRetries where
  enabled : Bool := true
  retries : UInt32 := 3
  increase : Duration := .ofSeconds 10
  deriving DecidableEq

def DelayedRetries.isActive (d : DelayedRetries) : Bool := d.enabled && d.retries != 0

def defaultCapacity : UInt64 := 1000

structure Settings where
  /-- Queue the endpoint receives from; delayed retries are sent there. -/
  address : String := ""
  errorQueue : String := "error"
  immediateRetries : UInt32 := 5
  delayed : DelayedRetries := {}
  mode : TransactionMode := .receiveOnly
  concurrency : UInt64 := 4
  capacity : UInt64 := defaultCapacity
  sendOnly : Bool := false
  deriving DecidableEq

namespace Settings

def forAddress (address : String) : Settings := { address }

def withDelayedRetries (s : Settings) (retries : UInt32) (increase : Duration) : Settings :=
  { s with delayed := { enabled := true, retries, increase } }

def withoutDelayedRetries (s : Settings) : Settings :=
  { s with delayed := { s.delayed with enabled := false } }

def validate (s : Settings) : Except ConfigError Unit :=
  if Text.isBlankText s.address then .error (.invalid "local_address" "must not be empty")
  else if Text.isBlankText s.errorQueue then .error (.invalid "error_queue" "must not be empty")
  else if s.concurrency = 0 then .error (.invalid "max_concurrency" "must be at least 1")
  else .ok ()

end Settings
end Redelivery
