/-!
# Entries

Keys with their values, in the order in which the keys came. Setting a key that
is there keeps its place, so that no key comes twice.
-/
namespace ElevatorBank

abbrev Entries (α : Type) := List (String × α)

namespace Entries
variable {α : Type}

def get? (key : String) (es : Entries α) : Option α := es.lookup key

/-- Replaces the value at a key, or adds the key at the end. -/
def set (key : String) (v : α) : Entries α → Entries α
  | [] => [(key, v)]
  | (k, old) :: rest => if k == key then (k, v) :: rest else (k, old) :: set key v rest

/-- Removes a key. -/
def erase (key : String) (es : Entries α) : Entries α := es.filter (·.1 != key)

theorem get?_set (key other : String) (v : α) (es : Entries α) :
    (set key v es).get? other = if other == key then some v else es.get? other := by
  unfold get?
  induction es with
  | nil => cases h : other == key <;> simp [set, List.lookup_cons, h]
  | cons e rest ih =>
    obtain ⟨k, old⟩ := e
    by_cases hk : k = key
    · subst hk
      cases h : other == k <;> simp [set, List.lookup_cons, h]
    · by_cases ho : other = k
      · subst ho
        simp [set, hk]
      · have h : (other == k) = false := by simpa using ho
        simp [set, List.lookup_cons, hk, h, ih]

end Entries
end ElevatorBank
