import ElevatorBank.Event
import ElevatorBank.Strategy
import ElevatorBank.Target
import ElevatorBank.Wire.Reader

/-!
# Wire form of directions, modes, strategies, targets and snapshots

Each writer stands beside its reader.
-/
namespace ElevatorBank
open Wire

variable [lib : Library]

namespace Direction

def toJson (d : Direction) : Json := .text d.name

def ofJson? (j : Json) : Option Direction := lib.name? ofName? false j

/-- Reads a direction inside a buffered value. -/
def ofBuffered? (j : Json) : Option Direction := lib.name? ofName? true j

end Direction

namespace Mode

def toJson (m : Mode) : Json := .text m.name

def ofJson? (j : Json) : Option Mode := lib.name? ofName? false j

end Mode

namespace StrategyKind

def toJson (k : StrategyKind) : Json := .text k.name

def ofJson? (j : Json) : Option StrategyKind := lib.name? ofName? false j

end StrategyKind

namespace EventKind

def toJson (k : EventKind) : Json := .text k.tag

def ofJson? (j : Json) : Option EventKind := lib.name? ofTag? false j

end EventKind

namespace Target

def toJson (t : Target) : Json :=
  .record [("floor", .int t.floor), ("direction", t.direction.toJson)]

def ofJson? (j : Json) : Option Target := do
  let [floor, direction] ← lib.fields? ["floor", "direction"] j | none
  return { floor := ← lib.floor? floor, direction := ← Direction.ofJson? direction }

end Target

namespace Snapshot

def toJson (s : Snapshot) : Json :=
  .record [("id", .nat s.id), ("floor", .int s.floor), ("direction", s.direction.toJson),
    ("mode", s.mode.toJson), ("up_stops", .ints s.upStops), ("down_stops", .ints s.downStops)]

def ofJson? (j : Json) : Option Snapshot := do
  let [id, floor, direction, mode, upStops, downStops] ←
    lib.fields? ["id", "floor", "direction", "mode", "up_stops", "down_stops"] j | none
  return {
    id := ← lib.carId? id
    floor := ← lib.floor? floor
    direction := ← Direction.ofJson? direction
    mode := ← Mode.ofJson? mode
    upStops := ← lib.list? lib.floor? upStops
    downStops := ← lib.list? lib.floor? downStops }

end Snapshot
end ElevatorBank
