import ElevatorBank.Bank.State

/-!
# Stops of the fleet

What changes the cars' stops and modes and the pending hall calls without
publishing anything. Each change is logged where it happens.
-/
namespace ElevatorBank.Bank
open Log.Field

/-- Queues a stop on a car of the fleet. -/
def enqueue (b : Bank) (c : Car) (t : Target) : Bank :=
  { b with fleet := b.fleet.change c.id (·.enqueue t) }.say .trace "Stop enqueued"
    [("unit_id", nat c.id), ("floor", int t.floor), ("direction", text t.direction.name),
      ("inserted", flag (c.lacks t))]

def noteWithdrawal (t : Target) (b : Bank) (id : CarId) : Bank :=
  b.say .debug "Stop removed"
    [("unit_id", nat id), ("floor", int t.floor), ("direction", text t.direction.name)]

/-- Withdraws a stop from a car of the fleet. -/
def withdraw (b : Bank) (c : Car) (t : Target) : Bank :=
  let after := { b with fleet := b.fleet.change c.id (·.withdraw t) }
  if c.canWithdraw t then noteWithdrawal t after c.id else after

/-- Withdraws a stop from every car but one; answers how many had it. -/
def withdrawFromOthers (b : Bank) (id : CarId) (t : Target) : Bank × Nat :=
  let losers := b.fleet.others id t
  let after := losers.foldl (noteWithdrawal t)
    { b with fleet := b.fleet.withdrawFromOthers id t }
  (after.say .debug "Removed resolved stop from other units"
    [("serving_unit_id", nat id), ("floor", int t.floor), ("direction", text t.direction.name),
      ("removed", nat losers.length)],
    losers.length)

def setMode (b : Bank) (c : Car) (mode : Mode) : Bank :=
  let after := { b with fleet := b.fleet.change c.id ({ · with mode }) }
  if c.mode = mode then after
  else after.say .info "Operating mode changed"
    [("unit_id", nat c.id), ("from", text c.mode.name), ("to", text mode.name)]

/-- Queues a stop on the car of a number, if there is one. -/
def enqueueOn (t : Target) (b : Bank) (id : CarId) : Bank :=
  match b.car? id with
  | some c => b.enqueue c t
  | none => b

/-- Makes a hall call pending on cars and queues it there; answers whether it was new. -/
def register (b : Bank) (t : Target) (cars : List CarId) : Bank × Bool :=
  let added := !b.calls.has t
  let after := cars.foldl (enqueueOn t) { b with calls := b.calls.register t cars }
  (after.say .debug "Broadcast hall call pending"
    [("floor", int t.floor), ("direction", text t.direction.name), ("added", flag added),
      ("units", text (Log.idList ((after.calls.holders? t).getD [])))],
    added)

/-- Settles a pending hall call in favour of a car: the stop is withdrawn from
all others. Answers from how many, or nothing where the call was not pending. -/
def resolve (b : Bank) (id : CarId) (t : Target) : Bank × Option Nat :=
  match b.calls.holders? t with
  | none => (b, none)
  | some holders =>
    let (after, removed) := b.withdrawFromOthers id t
    ({ after with calls := after.calls.resolve t }.say .info "Broadcast hall call resolved"
      [("unit_id", nat id), ("floor", int t.floor), ("direction", text t.direction.name),
        ("assigned", text (Log.idSet holders)), ("cancelled_on", nat removed)],
      some removed)

def setStrategy (b : Bank) (s : Strategy) : Bank :=
  { b with strategy := s }.say .info "Scheduler strategy swapped"
    [("from", text b.strategy.name), ("to", text s.name)]

end ElevatorBank.Bank
