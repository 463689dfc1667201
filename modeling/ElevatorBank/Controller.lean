import ElevatorBank.Bank.Op
import ElevatorBank.Car

/-!
# Controllers

A car as its controller keeps it. The direction that is shown stands in a register of its own, which
is written anew after the stops have been changed and when the car sets out; and a stop is an entry
that is made, marked and taken out, whoever asked for it. `Car` says the same without the register.
-/
namespace ElevatorBank

namespace StopSet

/-- The requesters in the entry of a floor. -/
def entry? (s : StopSet) (floor : Int) : Option Requesters :=
  (s.find? (·.floor == floor)).map (·.requesters)

/-- Makes an entry in the order of the floors, or writes the one that is there anew. -/
def setEntry (floor : Int) (r : Requesters) : StopSet → StopSet
  | [] => [⟨floor, r⟩]
  | stop :: rest =>
    if floor < stop.floor then ⟨floor, r⟩ :: stop :: rest
    else if stop.floor < floor then stop :: setEntry floor r rest
    else ⟨floor, r⟩ :: rest

def dropEntry (s : StopSet) (floor : Int) : StopSet := s.filter (·.floor != floor)

/-- Marks a landing's request, in a new entry if there is none; also whether it was missing. -/
def addHall (s : StopSet) (floor : Int) : StopSet × Bool :=
  let r := (s.entry? floor).getD .nobody
  (s.setEntry floor { r with hall := true }, !r.hall)

/-- Takes back a landing's request, and the entry with it if no passenger is bound for the floor;
also whether there was one. -/
def dropHall (s : StopSet) (floor : Int) : StopSet × Bool :=
  match s.entry? floor with
  | some r =>
    if r.hall then
      (if r.cabin then s.setEntry floor { r with hall := false } else s.dropEntry floor, true)
    else (s, false)
  | none => (s, false)

/-- Lets passengers off, and drops the entry if no landing asked for it. -/
def dropCabin (s : StopSet) (floor : Int) : StopSet :=
  match s.entry? floor with
  | some r => if r.hall then s.setEntry floor { r with cabin := false } else s.dropEntry floor
  | none => s

end StopSet

namespace Car

/-- Marks a passenger's request in the entry of the floor, the one on the way up before the one on
the way down; if there is none, makes one on the side where the floor lies. -/
def addCabin (c : Car) (floor : Int) : Car × Bool :=
  match c.up.entry? floor, c.down.entry? floor with
  | some r, _ => ({ c with up := c.up.setEntry floor { r with cabin := true } }, !r.cabin)
  | none, some r => ({ c with down := c.down.setEntry floor { r with cabin := true } }, !r.cabin)
  | none, none =>
    if c.floor ≤ floor then ({ c with up := c.up.setEntry floor ⟨false, true⟩ }, true)
    else ({ c with down := c.down.setEntry floor ⟨false, true⟩ }, true)

/-- Adds a request; also whether it was missing. -/
def addStop (c : Car) (t : Target) : Car × Bool :=
  match t.direction with
  | .up =>
    let (up, added) := c.up.addHall t.floor
    ({ c with up }, added)
  | .down =>
    let (down, added) := c.down.addHall t.floor
    ({ c with down }, added)
  | .idle => c.addCabin t.floor

/-- Takes back a landing's request, or drops the floor altogether; also whether there was anything
to take back. -/
def dropStop (c : Car) (t : Target) : Car × Bool :=
  match t.direction with
  | .up =>
    let (up, dropped) := c.up.dropHall t.floor
    ({ c with up }, dropped)
  | .down =>
    let (down, dropped) := c.down.dropHall t.floor
    ({ c with down }, dropped)
  | .idle => ({ c with up := c.up.dropEntry t.floor, down := c.down.dropEntry t.floor },
      (c.up.entry? t.floor).isSome || (c.down.entry? t.floor).isSome)

/-- Drops the stop at a floor from one set, and lets the passengers for it off that wait in the
other. -/
def serveStop (c : Car) (floor : Int) : Direction → Car
  | .up => { c with up := c.up.dropEntry floor, down := c.down.dropCabin floor }
  | _ => { c with down := c.down.dropEntry floor, up := c.up.dropCabin floor }

end Car

structure Controller where
  car : Car
  /-- The register of the direction that is shown. -/
  direction : Direction
  deriving DecidableEq, Repr, Inhabited

namespace Controller

def start (id : CarId) (floor : Int) : Controller := ⟨.start id floor, .idle⟩

/-- What is shown of the car. -/
def snapshot (k : Controller) : Snapshot := { k.car.snapshot with direction := k.direction }

/-- Writes the register by the stops there are. -/
def refresh (k : Controller) : Controller :=
  { k with direction :=
      if !k.car.up.isEmpty then .up else if !k.car.down.isEmpty then .down else .idle }

def enqueue (k : Controller) (t : Target) : Controller × Bool :=
  let (car, added) := k.car.addStop t
  ({ k with car }.refresh, added)

def withdraw (k : Controller) (t : Target) : Controller × Bool :=
  let (car, dropped) := k.car.dropStop t
  ({ k with car }.refresh, dropped)

/-- One step. The register shows the set of the aim from when the car sets out; by the stops it is
written only where one has been served. -/
def advance (k : Controller) : Controller × List Event :=
  match k.car.aim with
  | none => ({ k with direction := .idle }, [])
  | some (aim, set) =>
    let source := k.car.floor
    let floor := Floor.next source aim
    let moved :=
      if aim = source then [] else [.carMoved k.car.id source floor (.between source floor)]
    let there : Car := { k.car with floor }
    if floor = aim then
      (refresh ⟨there.serveStop aim set, set⟩, moved ++ [.stopServed k.car.id aim set])
    else (⟨there, set⟩, moved)

/-- What can be asked of one car. -/
inductive Order
  | enqueue (t : Target)
  | withdraw (t : Target)
  | setMode (mode : Mode)
  | step

def obey (k : Controller) : Order → Controller × Answer
  | .enqueue t => (k.enqueue t).map id .flag
  | .withdraw t => (k.withdraw t).map id .flag
  | .setMode mode => ({ k with car := { k.car with mode } }, .mode k.car.mode)
  | .step => k.advance.map id .events

/-- Obeys orders one after the other, and gives the answers to them. -/
def obeyAll (k : Controller) : List Order → Controller × List Answer
  | [] => (k, [])
  | order :: rest =>
    let (k, answer) := k.obey order
    (k.obeyAll rest).map id (answer :: ·)

end Controller

/-- The order as an operation on the car of a bank. -/
def Controller.Order.op (id : CarId) : Order → Op
  | .enqueue t => .enqueue id t
  | .withdraw t => .withdraw id t
  | .setMode mode => .setMode id mode
  | .step => .stepCar id 1

end ElevatorBank
