import ElevatorBank.Envelope
import ElevatorBank.Wire.Event

/-!
# Wire form of envelopes

The identity and the time are texts.
-/
namespace ElevatorBank.Envelope
open Wire

variable [lib : Library]

def toJson (e : Envelope) : Json :=
  .record [("event_id", .text (lib.uuidText e.id)), ("event", e.event.toJson),
    ("published_at", .text (lib.instantText e.publishedAt))]

def ofJson? (j : Json) : Option Envelope := do
  let [id, event, publishedAt] ← lib.fields? ["event_id", "event", "published_at"] j | none
  return {
    id := ← (lib.text? id).bind lib.uuid?
    event := ← Event.ofJsonAt? 1 event
    publishedAt := ← (lib.text? publishedAt).bind lib.instant? }

end ElevatorBank.Envelope
