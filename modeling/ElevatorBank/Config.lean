import ElevatorBank.Memory
import ElevatorBank.Strategy

/-!
# Configuration

What a bank is built from: where its cars start, the size of the command queue,
the strategy to begin with, and the pace of the stepping driver.
-/
namespace ElevatorBank

structure Config where
  /-- One entry for each car. -/
  startFloors : List Int := [0, 0]
  /-- How many commands may wait. -/
  capacity : Nat := 100
  workerCount : Nat := 2
  pollIntervalMs : Nat := 50
  strategy : StrategyKind := .broadcast
  stepIntervalMs : Nat := 1000
  deriving DecidableEq, Repr, Inhabited

namespace Config

def carCount (c : Config) : Nat := c.startFloors.length

/-- The size of a floor. -/
def floorSize : Nat := 4

/-- A fleet whose cars all start on one floor. -/
def uniform (cars : Nat) (floor : Int) : Except Refusal Config :=
  if Memory.fits cars floorSize then .ok { startFloors := List.replicate cars floor }
  else .error Memory.overflow

/-- Rejects what a bank cannot start with; of several faults the first is reported. -/
def validate (c : Config) : Except ConfigError Unit := do
  if c.startFloors.isEmpty then
    throw (.validation "at least one elevator must be configured")
  if c.capacity = 0 then
    throw (.invalidValue "queue.capacity" "0" "command queue capacity must be positive")
  if c.workerCount = 0 then
    throw (.invalidValue "queue.worker_count" "0" "at least one worker thread is required")
  if c.pollIntervalMs = 0 then
    throw (.invalidValue "queue.poll_interval_ms" "0" "poll interval must be positive")
  if c.stepIntervalMs = 0 then
    throw (.invalidValue "driver.step_interval_ms" "0" "step interval must be positive")

end Config
end ElevatorBank
