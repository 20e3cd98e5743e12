import Redelivery.Json.Printer
import Redelivery.Json.Values
import Redelivery.Message

/-! Messages as JSON objects: the id, the headers, and each body as a list of bytes. -/
namespace Redelivery

open Json

def printHeaders (h : Headers) : List Char :=
  printObject (h.entries.map fun e => (e.1, printText e.2))

def printBytes (bytes : Bytes) : List Char :=
  printList (bytes.map fun b => Whole.decimal b.toNat)

namespace Incoming

def printJson (m : Incoming) : List Char :=
  printObject [("message_id", printText m.id), ("headers", printHeaders m.headers),
    ("body", printBytes m.body), ("original_body", printBytes m.originalBody)]

end Incoming

namespace Outgoing

def printJson (m : Outgoing) : List Char :=
  printObject [("message_id", printText m.id), ("headers", printHeaders m.headers),
    ("body", printBytes m.body)]

end Outgoing

structure PartialMessage where
  id : Option String := none
  headers : Option Headers := none
  body : Option Bytes := none
  originalBody : Option Bytes := none

namespace PartialMessage

def headersReader : Reader Headers := do return .ofList (← Reader.map Reader.text)

def bytesReader : Reader Bytes := do
  return (← Reader.list (Reader.natural Whole.max8 "u8")).map UInt8.ofNat

def idField : RecordField PartialMessage :=
  ⟨"message_id", (·.id.isSome), fun m => do return { m with id := some (← Reader.text) }⟩

def headersField : RecordField PartialMessage :=
  ⟨"headers", (·.headers.isSome), fun m => do return { m with headers := some (← headersReader) }⟩

def bodyField : RecordField PartialMessage :=
  ⟨"body", (·.body.isSome), fun m => do return { m with body := some (← bytesReader) }⟩

def originalBodyField : RecordField PartialMessage :=
  ⟨"original_body", (·.originalBody.isSome),
    fun m => do return { m with originalBody := some (← bytesReader) }⟩

def incoming (m : PartialMessage) : Option Incoming := do
  return ⟨← m.id, ← m.headers, ← m.body, ← m.originalBody⟩

def outgoing (m : PartialMessage) : Option Outgoing := do
  return ⟨← m.id, ← m.headers, ← m.body⟩

end PartialMessage

def glyphsOf (cs : List Char) : List Text.Glyph := cs.map .char

def Incoming.ofJson? (cs : List Char) : Option Incoming :=
  match readAll (Reader.record "struct IncomingMessage"
    [PartialMessage.idField, PartialMessage.headersField, PartialMessage.bodyField,
      PartialMessage.originalBodyField] {}) (glyphsOf cs) with
  | .ok m => PartialMessage.incoming m
  | .error _ => none

def Outgoing.ofJson? (cs : List Char) : Option Outgoing :=
  match readAll (Reader.record "struct OutgoingMessage"
    [PartialMessage.idField, PartialMessage.headersField, PartialMessage.bodyField] {}) (glyphsOf cs) with
  | .ok m => PartialMessage.outgoing m
  | .error _ => none

end Redelivery
