import ElevatorBank.Floor
import ElevatorBank.Log.Record
import ElevatorBank.Snapshot

/-!
# Strategies

A strategy chooses the cars for a hall call from the snapshots of the fleet, in
the order in which they are to be asked; it may also break down with a text. A
broadcast strategy lets all its cars race for the call, any other gives it to
the first. Two are built in: every car in normal mode, and the one cheapest car.
-/
namespace ElevatorBank

inductive StrategyKind
  | broadcast
  | exclusiveEta
  deriving DecidableEq, Repr, Inhabited

namespace StrategyKind

def name : StrategyKind → String
  | broadcast => "broadcast"
  | exclusiveEta => "exclusive_eta"

def all : List StrategyKind := [broadcast, exclusiveEta]

def ofName? (s : String) : Option StrategyKind := all.find? (·.name == s)

/-- Reads a kind by its name; the second one has a short name too. -/
def parse (s : String) : Except String StrategyKind :=
  match if s == "eta" then some exclusiveEta else ofName? s with
  | some k => .ok k
  | none => .error s!"Invalid scheduler strategy: {s}"

@[simp] theorem ofName?_name (k : StrategyKind) : ofName? k.name = some k := by
  cases k <;> decide

end StrategyKind

structure Strategy where
  kind : StrategyKind
  /-- The cars for a call at a floor in a direction, or the text of a breakdown. -/
  select : Int → Direction → List Snapshot → Except String (List CarId)
  /-- What the choice writes to the log. -/
  remarks : Int → Direction → List Snapshot → List Log.Record := fun _ _ _ => []
  name : String := kind.name
  /-- Whether the chosen cars race for the call. -/
  isBroadcast : Bool := kind == .broadcast
  deriving Inhabited

namespace Strategy

def eligible (snapshots : List Snapshot) : List Snapshot :=
  snapshots.filter (·.mode.acceptsCalls)

def broadcast : Strategy where
  kind := .broadcast
  select _ _ snapshots := .ok ((eligible snapshots).map (·.id))

/-- Whether a car is working against the direction of a call. -/
def isReversing (direction : Direction) (s : Snapshot) : Bool :=
  !s.isIdle && s.direction != direction

/-- The cost of a car for a call in halves: two for each floor between them, one
for each stop already queued, four for turning round. -/
def costInHalves (floor : Int) (direction : Direction) (s : Snapshot) : Int :=
  2 * Floor.distance s.floor floor + s.queuedStops + if isReversing direction s then 4 else 0

/-- A number of halves as a decimal with one place. -/
def halvesText (n : Int) : String :=
  (if n < 0 then "-" else "") ++ toString (n.natAbs / 2) ++ if n % 2 = 0 then ".0" else ".5"

def candidates (snapshots : List Snapshot) : List Snapshot :=
  (eligible snapshots).mergeSort fun a b => a.id ≤ b.id

/-- The first of the cheapest candidates. -/
def cheapest (cost : Snapshot → Int) : List Snapshot → Option Snapshot
  | [] => none
  | s :: rest =>
    match cheapest cost rest with
    | some best => some (if cost best < cost s then best else s)
    | none => some s

/-- The one cheapest car in normal mode, of equally cheap ones the lowest number. -/
def exclusiveEta : Strategy where
  kind := .exclusiveEta
  select floor direction snapshots :=
    .ok ((cheapest (costInHalves floor direction) (candidates snapshots)).map (·.id)).toList
  remarks floor direction snapshots :=
    (candidates snapshots).map fun s =>
      .mk .trace "Scored candidate"
        [("unit_id", .nat s.id), ("cost", .decimal (halvesText (costInHalves floor direction s)))]

def ofKind : StrategyKind → Strategy
  | .broadcast => broadcast
  | .exclusiveEta => exclusiveEta

/-- A strategy that always chooses the same cars. -/
def fixed (kind : StrategyKind) (cars : List CarId) : Strategy where
  kind
  select _ _ _ := .ok cars

/-- A strategy that chooses as a built-in one does, under a kind of its own. -/
def delegating (kind delegate : StrategyKind) : Strategy where
  kind
  select := (ofKind delegate).select
  remarks := (ofKind delegate).remarks

/-- A strategy that always breaks down. -/
def broken (kind : StrategyKind) (reason : String) : Strategy where
  kind
  select _ _ _ := .error reason

end Strategy
end ElevatorBank
