import ElevatorBank.Bank.Op
import ElevatorBank.Config
import ElevatorBank.Fleet
import ElevatorBank.HallCalls
import ElevatorBank.Log.Dispatch
import ElevatorBank.Queue

/-!
# The state of a bank

The fleet, the pending hall calls, the bus, the strategy in force and the
command queue, together with a trace of what has happened so far. The trace is
the history that other parts are read from: the events published, the handlers
invoked, the log.
-/
namespace ElevatorBank

/-- One entry of the trace. -/
inductive Note
  /-- An event is published to the subscriptions that want it. -/
  | opened (event : Event) (subscriptions : List Subscription)
  | invoked (subscription : Subscription) (event : Event)
  /-- An operation that a handler called has been answered. -/
  | answered (subscription : Subscription) (answer : Answer)
  | returned (subscription : Subscription) (error : Option HandlerError)
  /-- The event has gone to all its subscriptions. -/
  | closed (event : Event) (delivery : Delivery)
  | logged (record : Log.Record)

structure Bank where
  config : Config := {}
  fleet : Fleet := []
  calls : HallCalls := []
  bus : Bus Op := .empty
  strategy : Strategy := .broadcast
  queue : Queue := { capacity := 1, workerCount := 1 }
  /-- The background driver, while there is one. -/
  driver : Option StepDriver := none
  /-- Newest first. -/
  trace : List Note := []
  /-- Whether the thread at work is one whose log is kept. -/
  audible : Bool := true

namespace Bank

instance : Inhabited Bank := ⟨{}⟩

def note (b : Bank) (n : Note) : Bank := { b with trace := n :: b.trace }

def log (b : Bank) (r : Log.Record) : Bank := if b.audible then b.note (.logged r) else b

def say (b : Bank) (level : Log.Level) (message : String) (fields : List (String × Log.Field)) :
    Bank :=
  b.log ⟨level, message, fields⟩

/-- Work on another thread: it has all its effects, but leaves no log here. -/
def aside {α : Type} (b : Bank) (work : Bank → Bank × α) : Bank × α :=
  let r := work { b with audible := false }
  ({ r.1 with audible := b.audible }, r.2)

def noteSubscription (b : Bank) (name : String) (kinds : List EventKind) : Bank :=
  b.say .debug "Registered event subscriber"
    [("subscriber", .text name), ("kinds", .text (Text.listText (kinds.map (·.title))))]

def car? (b : Bank) (id : CarId) : Option Car := b.fleet.car? id

/-- The events published, oldest first. -/
def published (b : Bank) : List Event :=
  b.trace.reverse.filterMap fun
    | .opened event _ => some event
    | _ => none

/-- Forgets the trace. -/
def forget (b : Bank) : Bank := { b with trace := [] }

/-- How many callbacks the handlers on the bus can still make. -/
def callbacks (b : Bank) : Nat := (b.bus.scripts.map scriptCallbacks).foldl (· + ·) 0

end Bank
end ElevatorBank
