import ElevatorBank.Wire.Values

/-!
# Wire form of events

An event has its kind beside its data.
-/
namespace ElevatorBank
open Wire

variable [lib : Library]

namespace Event

def dataJson : Event → Json
  | hallCallRaised floor direction =>
    .record [("floor", .int floor), ("direction", direction.toJson)]
  | assignmentMade floor direction cars =>
    .record [("floor", .int floor), ("direction", direction.toJson), ("unit_ids", .nats cars)]
  | carMoved car source target direction =>
    .record [("unit_id", .nat car), ("from_floor", .int source), ("to_floor", .int target),
      ("direction", direction.toJson)]
  | stopServed car floor direction =>
    .record [("unit_id", .nat car), ("floor", .int floor), ("direction", direction.toJson)]

def toJson (e : Event) : Json := .record [("type", e.kind.toJson), ("data", e.dataJson)]

/-- Reads the data of an event of a kind. -/
def ofData? (kind : EventKind) (buffered : Bool) (data : Json) : Option Event := do
  let direction? (j : Json) : Option Direction := lib.name? Direction.ofName? buffered j
  match kind with
  | .hallCallRaised =>
    let [floor, direction] ← lib.named? ["floor", "direction"] data | none
    return .hallCallRaised (← lib.floor? floor) (← direction? direction)
  | .assignmentMade =>
    let [floor, direction, cars] ← lib.named? ["floor", "direction", "unit_ids"] data | none
    return .assignmentMade (← lib.floor? floor) (← direction? direction)
      (← lib.list? lib.carId? cars)
  | .carMoved =>
    let [car, source, target, direction] ←
      lib.named? ["unit_id", "from_floor", "to_floor", "direction"] data | none
    return .carMoved (← lib.carId? car) (← lib.floor? source) (← lib.floor? target)
      (← direction? direction)
  | .stopServed =>
    let [car, floor, direction] ← lib.named? ["unit_id", "floor", "direction"] data | none
    return .stopServed (← lib.carId? car) (← lib.floor? floor) (← direction? direction)

/-- Reads an event that stands inside so many other values. -/
def ofJsonAt? (enclosing : Nat) (j : Json) : Option Event := do
  let (tag, buffered, data) ← lib.adjacent? enclosing "type" "data" j
  ofData? (← EventKind.ofTag? tag) buffered data

def ofJson? (j : Json) : Option Event := ofJsonAt? 0 j

end Event
end ElevatorBank
