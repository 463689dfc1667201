import ElevatorBank.Command
import ElevatorBank.Wire.Values

/-!
# Wire form of commands and outcomes

Both say their kind in a field of their own beside the rest.
-/
namespace ElevatorBank
open Wire

variable [lib : Library]

namespace Command

def toJson : Command → Json
  | hallCall floor direction =>
    .record [("type", .text "hall_call"), ("floor", .int floor), ("direction", direction.toJson)]
  | carCall car floor =>
    .record [("type", .text "car_call"), ("unit_id", .nat car), ("floor", .int floor)]

def ofJson? (j : Json) : Option Command := do
  let (tag, content) ← lib.tagged? "type" j
  match tag with
  | "hall_call" =>
    let [floor, direction] ← lib.fields? ["floor", "direction"] content | none
    return hallCall (← lib.floor? floor) (← Direction.ofBuffered? direction)
  | "car_call" =>
    let [car, floor] ← lib.fields? ["unit_id", "floor"] content | none
    return carCall (← lib.carId? car) (← lib.floor? floor)
  | _ => none

end Command

namespace Outcome

def toJson : Outcome → Json
  | assigned cars => .record [("outcome", .text "assigned"), ("unit_ids", .nats cars)]
  | dropped => .record [("outcome", .text "dropped")]
  | cabinQueued car => .record [("outcome", .text "cabin_queued"), ("unit_id", .nat car)]

def ofJson? (j : Json) : Option Outcome := do
  let (tag, content) ← lib.tagged? "outcome" j
  match tag with
  | "assigned" =>
    let [cars] ← lib.fields? ["unit_ids"] content | none
    return assigned (← lib.list? lib.carId? cars)
  | "dropped" => if lib.isUnit content then some dropped else none
  | "cabin_queued" =>
    let [car] ← lib.fields? ["unit_id"] content | none
    return cabinQueued (← lib.carId? car)
  | _ => none

end Outcome
end ElevatorBank
