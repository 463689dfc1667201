/-!
# Directions

The way a car travels, or the way a caller at a landing wants to go. A car with
no work has direction `idle`; so has a call made inside a car, which names no
landing button.
-/
namespace ElevatorBank

inductive Direction
  | up
  | down
  | idle
  deriving DecidableEq, Repr, Inhabited

namespace Direction

def isIdle (d : Direction) : Bool := d == idle

/-- A landing has two buttons only. -/
def isHall (d : Direction) : Bool := d != idle

/-- The way from one floor to another. -/
def between (source target : Int) : Direction :=
  if source < target then up else if target < source then down else idle

def name : Direction → String
  | up => "up"
  | down => "down"
  | idle => "idle"

def all : List Direction := [up, down, idle]

def ofName? (s : String) : Option Direction := all.find? (·.name == s)

/-- Reads a direction typed by a person: the case of its letters does not matter. -/
def parse (s : String) : Except String Direction :=
  match ofName? (s.map Char.toLower) with
  | some d => .ok d
  | none => .error s!"Invalid direction: {s}"

@[simp] theorem ofName?_name (d : Direction) : ofName? d.name = some d := by
  cases d <;> decide

end Direction
end ElevatorBank
