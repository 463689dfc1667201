import ElevatorBank.Error

/-!
# Commands and outcomes

A command is a button press waiting to be carried out; an outcome is what came
of it.
-/
namespace ElevatorBank

inductive Command
  | hallCall (floor : Int) (direction : Direction)
  | carCall (car : CarId) (floor : Int)
  deriving DecidableEq, Repr, Inhabited

namespace Command

def text : Command → String
  | hallCall floor direction => s!"hall_call({floor}, {direction.name})"
  | carCall car floor => s!"car_call(unit {car}, {floor})"

end Command

inductive Outcome
  /-- The hall call is queued on these cars. -/
  | assigned (cars : List CarId)
  /-- No car could take the hall call. -/
  | dropped
  /-- The passenger's stop is queued on this car. -/
  | cabinQueued (car : CarId)
  deriving DecidableEq, Repr, Inhabited

namespace Outcome

def isDropped (o : Outcome) : Bool := o == dropped

def assignedCars : Outcome → List CarId
  | assigned cars => cars
  | _ => []

end Outcome

namespace Refusal

/-- A refusal as it reaches the caller of a queued command. -/
def toError (command : Command) : Refusal → DispatchError
  | error e => e
  | panic reason => .commandPanicked command.text reason

end Refusal
end ElevatorBank
