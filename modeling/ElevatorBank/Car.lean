import ElevatorBank.Event
import ElevatorBank.Floor
import ElevatorBank.Stops
import ElevatorBank.Target

/-!
# Cars

One car: where it is, its mode, and its two stop sets. Up-stops always win over
down-stops, and the direction a car reports names the set it is working on.
Within that set it heads for the nearest stop ahead of it; when all of them lie
behind, it turns back to the far end of the set. A step moves a car by one floor
at most and serves the stop it heads for on arrival.
-/
namespace ElevatorBank

structure Car where
  id : CarId
  floor : Int
  mode : Mode
  up : StopSet
  down : StopSet
  deriving DecidableEq, Repr, Inhabited

namespace Car

/-- A car at rest. -/
def start (id : CarId) (floor : Int) : Car := ⟨id, floor, .normal, [], []⟩

def isEmpty (c : Car) : Bool := c.up.isEmpty && c.down.isEmpty

/-- The stop set being worked on. -/
def direction (c : Car) : Direction :=
  if !c.up.isEmpty then .up else if !c.down.isEmpty then .down else .idle

def snapshot (c : Car) : Snapshot where
  id := c.id
  floor := c.floor
  direction := c.direction
  mode := c.mode
  upStops := c.up.floors
  downStops := c.down.floors.reverse

/-- Whether a floor is queued, in the set of the direction or, for `idle`, in either. -/
def hasStop (c : Car) (floor : Int) : Direction → Bool
  | .up => c.up.has floor
  | .down => c.down.has floor
  | .idle => c.up.has floor || c.down.has floor

/-- Whether the landing button at a floor has been given to this car. -/
def hasHallStop (c : Car) (floor : Int) : Direction → Bool
  | .up => (c.up.requests floor).hall
  | .down => (c.down.requests floor).hall
  | .idle => false

/-- Whether a passenger inside is waiting to reach a floor. -/
def hasCabinStop (c : Car) (floor : Int) : Bool :=
  (c.up.requests floor).cabin || (c.down.requests floor).cabin

/-- The floors passengers inside are waiting to reach, in ascending order. -/
def cabinFloors (c : Car) : List Int :=
  ((c.up ++ c.down).map (·.floor)).filter c.hasCabinStop |>.mergeSort |>.eraseDups

/-- Queues a passenger's stop: on a queued stop of that floor if there is one,
else as a new stop on the side where the floor lies. -/
def enqueueCabin (c : Car) (floor : Int) : Car :=
  if c.up.has floor then { c with up := c.up.markCabin floor }
  else if c.down.has floor then { c with down := c.down.markCabin floor }
  else if c.floor ≤ floor then { c with up := c.up.markCabin floor }
  else { c with down := c.down.markCabin floor }

/-- Queues a stop for a landing button, or for a passenger where the direction is `idle`. -/
def enqueue (c : Car) (t : Target) : Car :=
  match t.direction with
  | .up => { c with up := c.up.markHall t.floor }
  | .down => { c with down := c.down.markHall t.floor }
  | .idle => c.enqueueCabin t.floor

/-- Whether queueing the stop would add a request. -/
def lacks (c : Car) (t : Target) : Bool :=
  match t.direction with
  | .idle => if c.up.has t.floor then !(c.up.requests t.floor).cabin
      else !(c.down.requests t.floor).cabin
  | d => !c.hasHallStop t.floor d

/-- Withdraws a landing's request; with direction `idle`, drops the floor altogether. -/
def withdraw (c : Car) (t : Target) : Car :=
  match t.direction with
  | .up => { c with up := c.up.clearHall t.floor }
  | .down => { c with down := c.down.clearHall t.floor }
  | .idle => { c with up := c.up.remove t.floor, down := c.down.remove t.floor }

/-- Whether there is anything to withdraw. -/
def canWithdraw (c : Car) (t : Target) : Bool :=
  match t.direction with
  | .idle => c.hasStop t.floor .idle
  | d => c.hasHallStop t.floor d

/-- Serves the stop at a floor of one set. A passenger bound for that floor gets
off too if that request sits in the other set. -/
def serve (c : Car) (floor : Int) : Direction → Car
  | .up => { c with up := c.up.remove floor, down := c.down.clearCabin floor }
  | _ => { c with down := c.down.remove floor, up := c.up.clearCabin floor }

/-- The nearest up-stop at or above the car, else the highest one. -/
def upAim (c : Car) : Option Int :=
  (c.up.floors.find? (c.floor ≤ ·)).or c.up.floors.getLast?

/-- The nearest down-stop at or below the car, else the lowest one. -/
def downAim (c : Car) : Option Int :=
  (c.down.floors.reverse.find? (· ≤ c.floor)).or c.down.floors.head?

/-- The floor the car heads for and the set it is queued in. -/
def aim (c : Car) : Option (Int × Direction) :=
  (c.upAim.map (·, .up)).or (c.downAim.map (·, .down))

/-- One step: at most one floor towards the aim, and the stop there once it is reached. -/
def advance (c : Car) : Car × List Event :=
  match c.aim with
  | none => (c, [])
  | some (aim, set) =>
    let floor := Floor.next c.floor aim
    let moved :=
      if aim = c.floor then [] else [.carMoved c.id c.floor floor (.between c.floor floor)]
    let there := { c with floor }
    if floor = aim then (there.serve aim set, moved ++ [.stopServed c.id aim set])
    else (there, moved)

end Car
end ElevatorBank
