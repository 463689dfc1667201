import ElevatorBank.Direction
import ElevatorBank.Snapshot

/-!
# Domain events

What happened in the bank, in the words of its subscribers. The kind of an event
is what a subscription selects by.
-/
namespace ElevatorBank

inductive EventKind
  | hallCallRaised
  | assignmentMade
  | carMoved
  | stopServed
  deriving DecidableEq, Repr, Inhabited

namespace EventKind

/-- The dotted name, used in log records and messages. -/
def dotted : EventKind → String
  | hallCallRaised => "hall_call.raised"
  | assignmentMade => "assignment.made"
  | carMoved => "unit.moved"
  | stopServed => "stop.served"

/-- The tag of the wire form. -/
def tag : EventKind → String
  | hallCallRaised => "hall_call_raised"
  | assignmentMade => "assignment_made"
  | carMoved => "unit_moved"
  | stopServed => "stop_served"

/-- The title, used where a subscription's kinds are logged. -/
def title : EventKind → String
  | hallCallRaised => "HallCallRaised"
  | assignmentMade => "AssignmentMade"
  | carMoved => "UnitMoved"
  | stopServed => "StopServed"

def all : List EventKind := [hallCallRaised, assignmentMade, carMoved, stopServed]

def ofTag? (s : String) : Option EventKind := all.find? (·.tag == s)

@[simp] theorem ofTag?_tag (k : EventKind) : ofTag? k.tag = some k := by
  cases k <;> decide

end EventKind

inductive Event
  | hallCallRaised (floor : Int) (direction : Direction)
  | assignmentMade (floor : Int) (direction : Direction) (cars : List CarId)
  /-- The direction is the way the car went, which differs from the direction it
  reports while it turns back to a stop behind it. -/
  | carMoved (car : CarId) (source target : Int) (direction : Direction)
  /-- The direction names the stop set the stop was queued in. -/
  | stopServed (car : CarId) (floor : Int) (direction : Direction)
  deriving DecidableEq, Repr, Inhabited

namespace Event

def kind : Event → EventKind
  | hallCallRaised .. => .hallCallRaised
  | assignmentMade .. => .assignmentMade
  | carMoved .. => .carMoved
  | stopServed .. => .stopServed

/-- The car an event is about, if it is about one. -/
def car? : Event → Option CarId
  | carMoved car .. => some car
  | stopServed car .. => some car
  | _ => none

end Event
end ElevatorBank
