/-!
# Classes of characters

A class of characters is given by the ranges of its code points, in ascending
order.
-/
namespace ElevatorBank.Text

/-- The first and last code point of each range. -/
abbrev CharClass := Array (Nat × Nat)

namespace CharClass

def has (rs : CharClass) (c : Char) : Bool :=
  rs.any fun r => r.1 ≤ c.toNat && c.toNat ≤ r.2

end CharClass
end ElevatorBank.Text
