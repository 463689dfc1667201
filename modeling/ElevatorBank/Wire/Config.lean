import ElevatorBank.Config
import ElevatorBank.Wire.Values

/-!
# Wire form of configurations

Four sections, each a record of its own. A missing section or field keeps its
default.
-/
namespace ElevatorBank.Config
open Wire

variable [lib : Library]

def toJson (c : Config) : Json :=
  .record [
    ("elevators", .record [("start_floors", .ints c.startFloors)]),
    ("queue", .record [("capacity", .nat c.capacity), ("worker_count", .nat c.workerCount),
      ("poll_interval_ms", .nat c.pollIntervalMs)]),
    ("dispatch", .record [("strategy", c.strategy.toJson)]),
    ("driver", .record [("step_interval_ms", .nat c.stepIntervalMs)])]

/-- Reads a field if it is there; a missing one keeps its default. -/
def field? {α : Type} (read : Json → Option α) (default : α) : Option Json → Option α
  | some j => read j
  | none => some default

/-- The fields of a section, if it can be read; a missing section has none of them. -/
def part? (names : List String) : Option Json → Option (List (Option Json))
  | some j => lib.someFields? names j
  | none => some (names.map fun _ => none)

def ofJson? (j : Json) : Option Config := do
  let default : Config := {}
  let [elevators, queue, dispatch, driver] ←
    lib.someFields? ["elevators", "queue", "dispatch", "driver"] j | none
  let [startFloors] ← part? ["start_floors"] elevators | none
  let [capacity, workerCount, pollIntervalMs] ←
    part? ["capacity", "worker_count", "poll_interval_ms"] queue | none
  let [strategy] ← part? ["strategy"] dispatch | none
  let [stepIntervalMs] ← part? ["step_interval_ms"] driver | none
  return {
    startFloors := ← field? (lib.list? lib.floor?) default.startFloors startFloors
    capacity := ← field? lib.word? default.capacity capacity
    workerCount := ← field? lib.word? default.workerCount workerCount
    pollIntervalMs := ← field? lib.word? default.pollIntervalMs pollIntervalMs
    strategy := ← field? StrategyKind.ofJson? default.strategy strategy
    stepIntervalMs := ← field? lib.word? default.stepIntervalMs stepIntervalMs }

end ElevatorBank.Config
