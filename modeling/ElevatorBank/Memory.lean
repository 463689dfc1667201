import ElevatorBank.Error

/-!
# Room in memory

So many equal parts have room in memory only if there is an address for each of
their bytes. To ask for more is a panic.
-/
namespace ElevatorBank.Memory

def addresses : Nat := 0x7fffffffffffffff

/-- Whether there is room for so many parts of a size in bytes. -/
def fits (count size : Nat) : Bool := count * size ≤ addresses

def overflow : Refusal := .panic "capacity overflow"

end ElevatorBank.Memory
