/-!
# The stepping driver

A driver steps the fleet in the background at a fixed pace until it is stopped.
Stopping it again changes nothing.
-/
namespace ElevatorBank

structure StepDriver where
  intervalMs : Nat
  /-- The steps made so far. -/
  steps : Nat := 0
  running : Bool := true
  deriving DecidableEq, Repr, Inhabited

namespace StepDriver

def start (intervalMs : Nat) : StepDriver := { intervalMs }

/-- The driver after so many more steps; a stopped one makes none. -/
def tick (d : StepDriver) (steps : Nat) : StepDriver :=
  if d.running then { d with steps := d.steps + steps } else d

def stop (d : StepDriver) : StepDriver := { d with running := false }

end StepDriver
end ElevatorBank
