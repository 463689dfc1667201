import ElevatorBank.Direction

/-!
# Targets

One requested stop: a floor, and the direction of the landing button that asked
for it (`idle` for a call made inside a car). Pending hall calls are keyed by it.
-/
namespace ElevatorBank

structure Target where
  floor : Int
  direction : Direction
  deriving DecidableEq, Repr, Inhabited

namespace Target

def cabin (floor : Int) : Target := ⟨floor, .idle⟩

/-- A target is written as its floor and its direction, `3:up`. -/
def text (t : Target) : String := s!"{t.floor}:{t.direction.name}"

/-- Targets are listed by floor, those of one floor by the name of the direction. -/
def listedBefore (s t : Target) : Bool :=
  s.floor < t.floor || (s.floor == t.floor && s.direction.name ≤ t.direction.name)

end Target
end ElevatorBank
