/-!
# Splitting text

The parts of a text between the marks of one kind.
-/
namespace ElevatorBank.Text

/-- The parts between the marks; there is one more of them than of the marks. -/
def split (mark : Char) : List Char → List (List Char)
  | [] => [[]]
  | c :: cs =>
    if c = mark then [] :: split mark cs
    else
      match split mark cs with
      | [] => [[c]]
      | part :: parts => (c :: part) :: parts

/-- A part without the mark is split off where the mark follows it. -/
theorem split_append_cons (mark : Char) (part rest : List Char) (h : mark ∉ part) :
    split mark (part ++ mark :: rest) = part :: split mark rest := by
  induction part with
  | nil => simp [split]
  | cons c part ih =>
    have hc : c ≠ mark := fun e => h (by simp [e])
    have hp : mark ∉ part := fun m => h (List.mem_cons_of_mem c m)
    simp [split, hc, ih hp]

theorem split_of_notMem (mark : Char) (cs : List Char) (h : mark ∉ cs) : split mark cs = [cs] := by
  induction cs with
  | nil => rfl
  | cons c cs ih =>
    have hc : c ≠ mark := fun e => h (by simp [e])
    have hp : mark ∉ cs := fun m => h (List.mem_cons_of_mem c m)
    simp [split, hc, ih hp]

/-- The parts of a text. -/
def splitText (mark : Char) (s : String) : List String :=
  (split mark s.toList).map String.ofList

end ElevatorBank.Text
