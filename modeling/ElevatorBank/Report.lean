import ElevatorBank.Bank.State

/-!
# Status reports

A read-only view of the whole bank: the kind of its strategy, a snapshot of each
car and the pending hall calls.
-/
namespace ElevatorBank

structure Report where
  strategy : StrategyKind
  cars : List Snapshot
  pending : List Target
  deriving DecidableEq, Repr, Inhabited

namespace Report

def car? (r : Report) (id : CarId) : Option Snapshot := r.cars.find? (·.id == id)

/-- The report as text: a line for the strategy, one for each car, and one for
the pending calls if there are any. -/
def text (r : Report) : String :=
  let lines := s!"strategy: {r.strategy.name}" :: r.cars.map (·.line) ++ pendingLine
  String.join (lines.map (· ++ "\n"))
where
  pendingLine : List String :=
    if r.pending.isEmpty then []
    else ["pending hall calls: " ++ Text.commaSeparated (r.pending.map (·.text))]

end Report

namespace Bank

def report (b : Bank) : Report := ⟨b.strategy.kind, b.fleet.snapshots, b.calls.targets⟩

/-- One line about dispatch. -/
def dispatchText (b : Bank) : String :=
  Text.recordText "DispatchService"
    [("strategy", Text.quoted b.strategy.name), ("units", toString b.fleet.length),
      ("pending", toString b.calls.length)]

/-- One line about the bank. -/
def text (b : Bank) : String :=
  Text.recordText "ElevatorSystem"
    [("dispatch", b.dispatchText), ("queue", b.queue.text),
      ("driver_running", Text.boolText b.driver.isSome)]

end Bank
end ElevatorBank
