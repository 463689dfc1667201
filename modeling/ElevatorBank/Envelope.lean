import ElevatorBank.Event
import ElevatorBank.Time.Instant
import ElevatorBank.Uuid

/-!
# Envelopes

A published event with its identity and the time of publication.
-/
namespace ElevatorBank

structure Envelope where
  id : Uuid
  event : Event
  publishedAt : Time.Instant
  deriving DecidableEq, Repr, Inhabited

end ElevatorBank
