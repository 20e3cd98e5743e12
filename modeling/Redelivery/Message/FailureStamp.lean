import Redelivery.Failure
import Redelivery.Message
import Redelivery.Time.Instant

/-! What a message bound for the error queue says about its failure: type, text, full
description, the stage that raised it if one is known, the queue it failed in and the time. -/
namespace Redelivery

/-- Writes the description of a failure onto headers. Without a source stage the header for it
keeps what it held. -/
def Headers.stampFailure (h : Headers) (failure : Failure) (failedQueue : String)
    (time : Instant) : Headers :=
  let described := ((h.insert exceptionType failure.exceptionType).insert
    exceptionMessage failure.text).insert exceptionStackTrace failure.stackTrace
  let sourced := match failure.stage? with
    | some stage => described.insert exceptionSource stage
    | none => described
  (sourced.insert Headers.failedQueue failedQueue).insert timeOfFailure time.wireText

end Redelivery
