import Redelivery.Exchange

/-! Where a receiver takes messages from, and who is told what became of them: the mailbox of the
endpoint, or a source that follows a script. -/
namespace Redelivery

/-- What a source answers when it is asked for a message. -/
inductive Polled where
  | message (m : Incoming)
  | nothing
  | failed (failure : Failure)
  deriving DecidableEq

inductive Receipt where
  | accepted
  | failed (failure : Failure)
  | panicked (text : String)
  deriving DecidableEq

/-- Answers in order; after the last one nothing arrives and all news is accepted. -/
structure SourceScript where
  receive : List Polled := []
  complete : List Receipt := []
  abandon : List Receipt := []

inductive Source where
  /-- The mailbox of the endpoint, at which a receiver waits for some time. -/
  | mailbox (poll : Duration)
  | scripted (script : SourceScript)

namespace SourceScript

def nextReceive (s : SourceScript) : Polled × SourceScript :=
  (s.receive.headD .nothing, { s with receive := s.receive.tail })

def nextComplete (s : SourceScript) : Receipt × SourceScript :=
  (s.complete.headD .accepted, { s with complete := s.complete.tail })

def nextAbandon (s : SourceScript) : Receipt × SourceScript :=
  (s.abandon.headD .accepted, { s with abandon := s.abandon.tail })

end SourceScript
end Redelivery
