/-!
# Floors

A floor has a number, a signed word of 32 bits. Arithmetic on floors is that of such words: a
result that does not fit wraps around (`wrap`). It is ordinary arithmetic between floors whose
distance fits (`Span`), as it does in any building; from a floor that lies further away than that
the way leads off in the other direction.
-/
namespace ElevatorBank

/-- The least floor is its negative, the greatest the number before it. -/
def floorLimit : Nat := 0x80000000

def IsFloor (i : Int) : Prop := -(floorLimit : Int) ≤ i ∧ i < floorLimit

instance (i : Int) : Decidable (IsFloor i) := inferInstanceAs (Decidable (_ ∧ _))

namespace Floor

/-- What 32 bits keep of a number. -/
def wrap (i : Int) : Int := i.bmod (2 * floorLimit)

/-- The next floor on the way to another one. -/
def next (floor aim : Int) : Int :=
  if aim = floor then floor else wrap (floor + (wrap (aim - floor)).sign)

@[simp] theorem next_self (floor : Int) : next floor floor = floor := if_pos rfl

/-- The distance from one floor to another. Taking away a sign can wrap around as well. -/
def distance (floor other : Int) : Int := wrap (wrap (floor - other)).natAbs

/-- All the floors from one to another, so near to each other that no difference wraps around. -/
structure Span (lo hi : Int) : Prop where
  lower : IsFloor lo
  upper : IsFloor hi
  narrow : IsFloor (hi - lo)

instance (lo hi : Int) : Decidable (Span lo hi) :=
  decidable_of_iff (IsFloor lo ∧ IsFloor hi ∧ IsFloor (hi - lo))
    ⟨fun h => ⟨h.1, h.2.1, h.2.2⟩, fun h => ⟨h.lower, h.upper, h.narrow⟩⟩

theorem wrap_of_isFloor {i : Int} (h : IsFloor i) : wrap i = i := by
  unfold IsFloor floorLimit at h
  exact Int.bmod_eq_of_le (by unfold floorLimit; omega) (by unfold floorLimit; omega)

variable {lo hi x y : Int}

theorem Span.isFloor (h : Span lo hi) (hx : lo ≤ x ∧ x ≤ hi) : IsFloor x := by
  have hlower := h.lower
  have hupper := h.upper
  unfold IsFloor at *
  omega

theorem Span.isFloor_sub (h : Span lo hi) (hx : lo ≤ x ∧ x ≤ hi) (hy : lo ≤ y ∧ y ≤ hi) :
    IsFloor (y - x) := by
  have hnarrow := h.narrow
  unfold IsFloor at *
  omega

/-- Within a span the way leads to the floor above or below, until the floor aimed at is reached. -/
theorem Span.next_cases (h : Span lo hi) (hx : lo ≤ x ∧ x ≤ hi) (hy : lo ≤ y ∧ y ≤ hi) :
    y = x ∧ next x y = x ∨ x < y ∧ next x y = x + 1 ∨ y < x ∧ next x y = x - 1 := by
  rcases Int.lt_trichotomy x y with hlt | rfl | hlt
  · rw [next, if_neg (by omega), wrap_of_isFloor (h.isFloor_sub hx hy),
      Int.sign_eq_one_of_pos (by omega), wrap_of_isFloor (h.isFloor (by omega))]
    exact .inr (.inl ⟨hlt, rfl⟩)
  · exact .inl ⟨rfl, next_self x⟩
  · rw [next, if_neg (by omega), wrap_of_isFloor (h.isFloor_sub hx hy),
      Int.sign_eq_neg_one_of_neg (by omega), wrap_of_isFloor (h.isFloor (by omega))]
    exact .inr (.inr ⟨hlt, rfl⟩)

theorem distance_of_isFloor (h : IsFloor (x - y)) (hne : x - y ≠ -(floorLimit : Int)) :
    distance x y = (x - y).natAbs := by
  rw [distance, wrap_of_isFloor h]
  refine wrap_of_isFloor ?_
  unfold IsFloor at *
  omega

/-- A floor can be so far above that the way to it leads down. -/
example : next (-1) 0x7FFFFFFF = -2 := by decide

example : distance (-0x80000000) 0 = -0x80000000 := by decide

end Floor
end ElevatorBank
