import ElevatorBank.Car

/-!
# Fleets

The cars of a bank in ascending order of their numbers. The fleet is fixed once
it stands: a change replaces a car by one of the same number.
-/
namespace ElevatorBank

abbrev Fleet := List Car

namespace Fleet

/-- A fleet at rest, numbered from one. -/
def start (floors : List Int) : Fleet :=
  floors.mapIdx fun i floor => Car.start (i + 1) floor

def ids (f : Fleet) : List CarId := f.map (·.id)

def car? (f : Fleet) (id : CarId) : Option Car := f.find? (·.id == id)

/-- Changes the car of one number. -/
def change (f : Fleet) (id : CarId) (g : Car → Car) : Fleet :=
  f.map fun c => if c.id = id then g c else c

def snapshots (f : Fleet) : List Snapshot := f.map (·.snapshot)

/-- The first number of the list that no car has. -/
def unknown? (f : Fleet) (ids : List CarId) : Option CarId :=
  ids.find? fun id => (f.car? id).isNone

def isEmpty (f : Fleet) : Bool := f.all (·.isEmpty)

/-- The cars other than one that would lose a stop if it were withdrawn. -/
def others (f : Fleet) (id : CarId) (t : Target) : List CarId :=
  (f.filter fun c => c.id != id && c.canWithdraw t).map (·.id)

/-- Withdraws a stop from every car but one. -/
def withdrawFromOthers (f : Fleet) (id : CarId) (t : Target) : Fleet :=
  f.map fun c => if c.id = id then c else c.withdraw t

/-- The lowest and the highest floor where a car is or is going. -/
def span (f : Fleet) : Int × Int :=
  let floors := f.flatMap fun c => c.floor :: (c.up.floors ++ c.down.floors)
  (floors.foldl min (floors.headD 0), floors.foldl max (floors.headD 0))

end Fleet
end ElevatorBank
