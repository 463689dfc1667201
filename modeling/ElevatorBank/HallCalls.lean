import ElevatorBank.Snapshot
import ElevatorBank.Target

/-!
# Pending hall calls

The broadcast calls that no car has served yet, each with the cars that race
for it. A key is registered at most once; registering it again adds cars.
-/
namespace ElevatorBank

structure PendingCall where
  target : Target
  /-- Ascending, each car once. -/
  holders : List CarId
  deriving DecidableEq, Repr, Inhabited

abbrev HallCalls := List PendingCall

namespace HallCalls

def holders? (h : HallCalls) (t : Target) : Option (List CarId) :=
  (h.find? (·.target == t)).map (·.holders)

def has (h : HallCalls) (t : Target) : Bool := h.any (·.target == t)

/-- Adds one car to an ascending list. -/
def insertHolder (id : CarId) : List CarId → List CarId
  | [] => [id]
  | a :: rest =>
    if id < a then id :: a :: rest else if a < id then a :: insertHolder id rest else a :: rest

/-- Adds the cars to the holders of a key, which becomes pending if it is not yet. -/
def register (h : HallCalls) (t : Target) (cars : List CarId) : HallCalls :=
  if h.has t then
    h.map fun call =>
      if call.target = t then { call with holders := cars.foldl (flip insertHolder) call.holders }
      else call
  else h ++ [⟨t, cars.foldl (flip insertHolder) []⟩]

def resolve (h : HallCalls) (t : Target) : HallCalls := h.filter (·.target != t)

/-- The pending keys by floor, those of one floor by the name of the direction. -/
def targets (h : HallCalls) : List Target :=
  (h.map (·.target)).mergeSort Target.listedBefore

end HallCalls
end ElevatorBank
