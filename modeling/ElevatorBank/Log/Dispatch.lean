import ElevatorBank.Event
import ElevatorBank.Log.Record
import ElevatorBank.Text.Layout

/-!
# Log records of dispatch

The record that each event leaves in the log, and the record of a dispatch
operation. Fields that do not apply are left out; only the direction of an
operation is always written, with its presence spelled out.
-/
namespace ElevatorBank

namespace Direction

/-- The title, used where the presence of a direction is logged. -/
def title : Direction → String
  | up => "Up"
  | down => "Down"
  | idle => "Idle"

end Direction

open Log.Field

namespace Log

def idList (ids : List CarId) : String := Text.listText (ids.map toString)

def idSet (ids : List CarId) : String := Text.setText (ids.map toString)

/-- What the logging subscriber writes on an event. -/
def ofEvent : Event → Record
  | .hallCallRaised floor direction =>
    ⟨.info, "🔔 HALL_CALL_RAISED", [("floor", int floor), ("direction", text direction.name)]⟩
  | .assignmentMade floor direction cars =>
    ⟨.info, "📋 ASSIGNMENT_MADE",
      [("floor", int floor), ("direction", text direction.name), ("unit_ids", text (idList cars))]⟩
  | .carMoved car source target direction =>
    ⟨.debug, "UNIT_MOVED",
      [("unit_id", nat car), ("from_floor", int source), ("to_floor", int target),
        ("direction", text direction.name)]⟩
  | .stopServed car floor direction =>
    ⟨.info, "✅ STOP_SERVED",
      [("unit_id", nat car), ("floor", int floor), ("direction", text direction.name)]⟩

/-- A dispatch operation as it is logged. -/
structure Operation where
  operation : String
  car : Option CarId := none
  floor : Option Int := none
  direction : Option Direction := none
  status : String
  details : Option String := none
  deriving DecidableEq, Repr, Inhabited

def directionPresence : Option Direction → String
  | some d => s!"Some({d.title})"
  | none => "None"

def ofOperation (o : Operation) : Record where
  level := .info
  message := "🛗 DISPATCH_OPERATION"
  fields :=
    [("operation", text o.operation)]
      ++ (o.car.map fun car => ("unit_id", nat car)).toList
      ++ (o.floor.map fun floor => ("floor", int floor)).toList
      ++ [("direction", text (directionPresence o.direction)), ("status", text o.status)]
      ++ (o.details.map fun details => ("details", text details)).toList

end Log
end ElevatorBank
