import ElevatorBank.Bus
import ElevatorBank.Command
import ElevatorBank.StepDriver
import ElevatorBank.Strategy
import ElevatorBank.Target

/-!
# Operations on a bank

What a caller may ask of a bank, at the top or from inside a handler, and what
it answers. Handlers are given as scripts of operations, so an operation may
carry a whole tree of later ones; `callbacks` counts the invocations of handlers
that such a tree can still make.
-/
namespace ElevatorBank

inductive Op
  /-- A hall call, carried out by the caller. -/
  | hallCall (floor : Int) (direction : Direction)
  /-- A call from inside a car, carried out by the caller. -/
  | carCall (car : CarId) (floor : Int)
  /-- A command handed to the queue; the caller waits for its result. -/
  | submit (command : Command)
  /-- Steps every car the given number of times. -/
  | step (times : Nat)
  | stepCar (car : CarId) (times : Nat)
  | enqueue (car : CarId) (target : Target)
  | withdraw (car : CarId) (target : Target)
  /-- Withdraws a stop from every car but one. -/
  | withdrawFromOthers (car : CarId) (target : Target)
  | setMode (car : CarId) (mode : Mode)
  | setStrategy (strategy : Strategy)
  /-- Makes a hall call pending on the given cars. -/
  | register (target : Target) (cars : List CarId)
  /-- Settles a pending hall call in favour of a car. -/
  | resolve (car : CarId) (target : Target)
  | subscribe (name : String) (kinds : List EventKind) (script : Script Op)
  | unsubscribe (name : String)
  | publish (event : Event)
  | busStats
  | busText
  /-- Runs the background driver until no car has a stop. -/
  | drive
  /-- Runs a background driver of the given pace for a number of steps. -/
  | driveFor (intervalMs steps : Nat)
  | shutdown

instance : Inhabited Op := ⟨.busStats⟩

/-- The operation by which a caller carries a command out itself. -/
def Command.op : Command → Op
  | .hallCall floor direction => .hallCall floor direction
  | .carCall car floor => .carCall car floor

inductive Answer
  | done
  | outcome (o : Outcome)
  | refused (r : Refusal)
  | flag (b : Bool)
  | count (n : Nat)
  /-- A number, or nothing where there was nothing to count. -/
  | countIfAny (n : Option Nat)
  | mode (m : Mode)
  /-- The kind of the strategy that was replaced. -/
  | replaced (kind : StrategyKind)
  | events (es : List Event)
  | delivery (d : Delivery)
  | stats (s : Bus.Stats)
  /-- A driver before and after it was stopped. -/
  | driven (before after : StepDriver)
  | text (s : String)
  deriving DecidableEq, Repr, Inhabited

namespace Answer

def error (e : DispatchError) : Answer := refused (.error e)

def ofExcept : Except Refusal Outcome → Answer
  | .ok o => outcome o
  | .error r => refused r

end Answer

mutual

/-- The invocations of scripted handlers that an operation makes possible. -/
def Op.callbacks : Op → Nat
  | .subscribe _ _ script => scriptCallbacks script
  | _ => 0

def scriptCallbacks : Script Op → Nat
  | ⟨calls, times, _⟩ => times * (1 + callCallbacks calls)

def callCallbacks : List Op → Nat
  | [] => 0
  | op :: rest => op.callbacks + callCallbacks rest

end

end ElevatorBank
