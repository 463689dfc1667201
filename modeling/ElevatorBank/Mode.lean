/-!
# Operating modes

A car takes new hall calls in normal mode only. Its queued stops are kept in
every mode.
-/
namespace ElevatorBank

inductive Mode
  | normal
  | maintenance
  | outOfService
  deriving DecidableEq, Repr, Inhabited

namespace Mode

/-- Whether a car in this mode may be given a hall call. -/
def acceptsCalls (m : Mode) : Bool := m == normal

def name : Mode → String
  | normal => "normal"
  | maintenance => "maintenance"
  | outOfService => "out_of_service"

def all : List Mode := [normal, maintenance, outOfService]

def ofName? (s : String) : Option Mode := all.find? (·.name == s)

/-- Reads a mode by its exact name. -/
def parse (s : String) : Except String Mode :=
  match ofName? s with
  | some m => .ok m
  | none => .error s!"Invalid operating mode: {s}"

@[simp] theorem ofName?_name (m : Mode) : ofName? m.name = some m := by
  cases m <;> decide

theorem acceptsCalls_iff {m : Mode} : m.acceptsCalls = true ↔ m = normal := by
  cases m <;> decide

end Mode
end ElevatorBank
