import ElevatorBank.Direction
import ElevatorBank.Mode
import ElevatorBank.Text.Layout

/-!
# Snapshots

What can be seen of one car at one moment. Strategies choose among snapshots,
and the status report prints them.
-/
namespace ElevatorBank

/-- Cars are numbered from one and keep their number. -/
abbrev CarId := Nat

structure Snapshot where
  id : CarId
  floor : Int
  direction : Direction
  mode : Mode
  /-- Ascending. -/
  upStops : List Int
  /-- Descending. -/
  downStops : List Int
  deriving DecidableEq, Repr, Inhabited

namespace Snapshot

def queuedStops (s : Snapshot) : Nat := s.upStops.length + s.downStops.length

def isIdle (s : Snapshot) : Bool := s.direction.isIdle

/-- The line of one car in a status report. -/
def line (s : Snapshot) : String :=
  " | ".intercalate [
    s!"elevator {s.id}",
    "floor " ++ Text.padLeft 3 (toString s.floor),
    Text.padRight 4 s.direction.name,
    Text.padRight 14 s.mode.name,
    "up " ++ Text.listText (s.upStops.map toString),
    "down " ++ Text.listText (s.downStops.map toString)]

end Snapshot
end ElevatorBank
