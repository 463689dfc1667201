import ElevatorBank.Config
import ElevatorBank.Setting.Library

/-!
# Configurations as settings

A configuration as a source of settings, and the configuration that settings
give. Each field is read on its own, and one that is not given has its default.
-/
namespace ElevatorBank
namespace Setting

/-- A field that is given has to be readable; one that is not keeps its default. -/
def orDefault? {α : Type} (read : Setting → Option α) (default : α) : Option Setting → Option α
  | some s => read s
  | none => some default

namespace Library
variable (lib : Library)

def floors? (s : Setting) : Option (List Int) := (lib.list? s).bind (·.mapM lib.floor?)

/-- A strategy by its name. -/
def strategy? (s : Setting) : Option StrategyKind :=
  (lib.word? (StrategyKind.all.map (·.name)) s).bind StrategyKind.ofName?

/-- The fields of a section that may be missing itself. -/
def part? (names : List String) : Option Setting → Option (List (Option Setting))
  | some s => lib.fields? names s
  | none => some (names.map fun _ => none)

end Library
end Setting

namespace Config
open Setting

def settings (c : Config) : Entries Setting := [
  ("elevators", table [("start_floors", list (c.startFloors.map int))]),
  ("queue", table [("capacity", int c.capacity), ("worker_count", int c.workerCount),
    ("poll_interval_ms", int c.pollIntervalMs)]),
  ("dispatch", table [("strategy", text c.strategy.name)]),
  ("driver", table [("step_interval_ms", int c.stepIntervalMs)])]

def ofSetting? (lib : Library) (s : Setting) : Option Config := do
  let default : Config := {}
  let [elevators, queue, dispatch, driver] ←
    lib.fields? ["elevators", "queue", "dispatch", "driver"] s | none
  let [startFloors] ← lib.part? ["start_floors"] elevators | none
  let [capacity, workerCount, pollIntervalMs] ←
    lib.part? ["capacity", "worker_count", "poll_interval_ms"] queue | none
  let [strategy] ← lib.part? ["strategy"] dispatch | none
  let [stepIntervalMs] ← lib.part? ["step_interval_ms"] driver | none
  return {
    startFloors := ← orDefault? lib.floors? default.startFloors startFloors
    capacity := ← orDefault? lib.nat? default.capacity capacity
    workerCount := ← orDefault? lib.nat? default.workerCount workerCount
    pollIntervalMs := ← orDefault? lib.nat? default.pollIntervalMs pollIntervalMs
    strategy := ← orDefault? lib.strategy? default.strategy strategy
    stepIntervalMs := ← orDefault? lib.nat? default.stepIntervalMs stepIntervalMs }

end Config
end ElevatorBank
