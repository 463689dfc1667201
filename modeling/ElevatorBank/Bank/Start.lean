import ElevatorBank.Bank.Perform

/-!
# Setting up a bank

A bank is put together from its parts in a fixed order, each of which leaves its
record in the log: the logging subscriber, the cars, the subscriber that settles
pending hall calls, the strategy and the command queue.
-/
namespace ElevatorBank.Bank
open Log.Field

def listen (b : Bank) (name : String) (kinds : List EventKind) (subscriber : Subscriber) : Bank :=
  { b with bus := b.bus.subscribe ⟨name, kinds, subscriber⟩ }.noteSubscription name kinds

def loggerName : String := "logging_subscriber"

def resolverName : String := "pending_hall_calls"

def addCar (b : Bank) (c : Car) : Bank :=
  { b with fleet := b.fleet ++ [c] }.say .debug "Elevator unit created"
    [("unit_id", nat c.id), ("start_floor", int c.floor)]

def addFleet (b : Bank) (floors : List Int) : Bank :=
  let b := (Fleet.start floors).foldl addCar b
  b.say .info "Elevator registry initialized" [("units", nat b.fleet.length)]

def addResolver (b : Bank) : Bank := b.listen resolverName [.stopServed] .resolver

def addStrategy (b : Bank) (s : Strategy) : Bank :=
  { b with strategy := s }.say .info "Dispatch service initialized"
    [("strategy", text s.name), ("units", nat b.fleet.length)]

def addQueue (b : Bank) (capacity workerCount : Nat) : Except Refusal Bank :=
  (Queue.start capacity workerCount).map fun queue =>
    { b with queue }.say .info "Command queue started"
      [("capacity", nat capacity), ("workers", nat workerCount)]

/-- Everything but the logging subscriber. -/
def dispatching (b : Bank) (floors : List Int) (s : Strategy) (capacity workerCount : Nat) :
    Except Refusal Bank :=
  (((b.addFleet floors).addResolver).addStrategy s).addQueue capacity workerCount

/-- A bank for a configuration, if it is valid. -/
def start (config : Config) : Except Refusal Bank := do
  if let .error e := config.validate then throw (.error e.toDispatchError)
  let b := Bank.listen { config } loggerName [] .logger
  let b ← b.dispatching config.startFloors (.ofKind config.strategy) config.capacity
    config.workerCount
  return b.say .info "Elevator system started"
    [("units", nat b.fleet.length), ("strategy", text config.strategy.name),
      ("workers", nat config.workerCount)]

end ElevatorBank.Bank
