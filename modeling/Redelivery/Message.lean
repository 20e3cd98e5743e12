import Redelivery.Headers

/-! Physical messages. A received message keeps the bytes it arrived with beside the body that
stages may replace, so that retries and the error queue carry the payload as it came. A message
to be sent is a copy of what a stage holds, and a receiver of it sees its body as the original. -/
namespace Redelivery

abbrev Bytes := List UInt8

structure Incoming where
  id : String
  headers : Headers
  body : Bytes
  originalBody : Bytes
  deriving DecidableEq, Inhabited

structure Outgoing where
  id : String
  headers : Headers
  body : Bytes
  deriving DecidableEq, Inhabited

namespace Incoming

def received (id : String) (headers : Headers) (body : Bytes) : Incoming :=
  ⟨id, headers, body, body⟩

def updateBody (m : Incoming) (body : Bytes) : Incoming := { m with body }

def bodyWasModified (m : Incoming) : Bool := m.body != m.originalBody

def revert (m : Incoming) : Incoming := { m with body := m.originalBody }

def setHeader (m : Incoming) (key value : String) : Incoming :=
  { m with headers := m.headers.insert key value }

def removeHeader (m : Incoming) (key : String) : Incoming :=
  { m with headers := m.headers.erase key }

def toOutgoing (m : Incoming) : Outgoing := ⟨m.id, m.headers, m.body⟩

end Incoming

def Outgoing.toIncoming (m : Outgoing) : Incoming := .received m.id m.headers m.body

end Redelivery
