import ElevatorBank.Proofs.Rank
import Mathlib.Data.List.Sort

/-!
# Circuits

A car comes to rest wherever its stops are. The way to a floor that is too far away leads off in
the other direction, over the last floor and on from the first one, so it never takes more than
half the way round all floors. What a car aims at may change on the way, but not for a stop that
is further away (`around_aim_le`), so that each stop is reached in its turn.
-/
namespace ElevatorBank

namespace Floor

/-- How many floors it is to another one on the shorter way round all floors. -/
def around (floor aim : Int) : Int :=
  min (aim - floor).natAbs (2 * floorLimit - (aim - floor).natAbs)

variable {x y z : Int}

lemma around_le (x y : Int) : around x y ≤ floorLimit := by
  unfold around
  omega

lemma around_nonneg (hx : IsFloor x) (hy : IsFloor y) : 0 ≤ around x y := by
  unfold around
  unfold IsFloor at *
  omega

/-- What 32 bits keep of a number is a word that differs from it by whole circuits. -/
lemma wrap_spec (i : Int) :
    IsFloor (wrap i) ∧ wrap i % (2 * floorLimit : Nat) = i % (2 * floorLimit : Nat) :=
  ⟨⟨@Int.le_bmod i (2 * floorLimit) (by decide), @Int.bmod_lt i (2 * floorLimit) (by decide)⟩,
    Int.bmod_emod⟩

lemma next_isFloor (hx : IsFloor x) (aim : Int) : IsFloor (next x aim) := by
  unfold next
  split_ifs
  · exact hx
  · exact (wrap_spec _).1

/-- The way leads up to a floor that is above and near, or so far below that the top is nearer,
and else it leads down. -/
lemma next_cases (hx : IsFloor x) (hy : IsFloor y) (hne : y ≠ x) :
    (x < y ∧ y - x < floorLimit ∨ y - x < -floorLimit) ∧
        (next x y = x + 1 ∨ x = floorLimit - 1 ∧ next x y = -floorLimit) ∨
      (y < x ∧ -floorLimit ≤ y - x ∨ floorLimit ≤ y - x) ∧
        (next x y = x - 1 ∨ x = -floorLimit ∧ next x y = floorLimit - 1) := by
  rw [next, if_neg hne]
  have hfar := wrap_spec (y - x)
  have hnext := wrap_spec (x + (wrap (y - x)).sign)
  generalize wrap (x + (wrap (y - x)).sign) = z at *
  generalize wrap (y - x) = d at *
  unfold IsFloor floorLimit at *
  rcases Int.lt_trichotomy 0 d with h | h | h
  · rw [Int.sign_eq_one_of_pos h] at hnext
    omega
  · omega
  · rw [Int.sign_eq_neg_one_of_neg h] at hnext
    omega

/-- From the next floor it is one floor less. -/
lemma around_next (hx : IsFloor x) (hy : IsFloor y) (hne : y ≠ x) :
    around (next x y) y + 1 = around x y := by
  have hnext := next_cases hx hy hne
  unfold around
  unfold IsFloor floorLimit at *
  omega

/-- The up-stop that is first in turn from the next floor is on the way to the one that was first
in turn before. -/
lemma around_le_of_up (hx : IsFloor x) (hy : IsFloor y) (hz : IsFloor z) (hne : y ≠ x)
    (hfirst : x ≤ y ∧ (x ≤ z → y ≤ z) ∨ y < x ∧ z ≤ y)
    (hthen : next x y ≤ z ∧ (next x y ≤ y → z ≤ y) ∨ z < next x y ∧ y ≤ z) :
    around (next x y) z ≤ around (next x y) y := by
  have hnext := next_cases hx hy hne
  unfold around
  unfold IsFloor floorLimit at *
  omega

lemma around_le_of_down (hx : IsFloor x) (hy : IsFloor y) (hz : IsFloor z) (hne : y ≠ x)
    (hfirst : y ≤ x ∧ (z ≤ x → z ≤ y) ∨ x < y ∧ y ≤ z)
    (hthen : z ≤ next x y ∧ (y ≤ next x y → y ≤ z) ∨ next x y < z ∧ z ≤ y) :
    around (next x y) z ≤ around (next x y) y := by
  have hnext := next_cases hx hy hne
  unfold around
  unfold IsFloor floorLimit at *
  omega

end Floor

/-! ### Stop sets -/

namespace StopSet

variable {s s' : StopSet}

/-- A set that has no floors but those of another one leaves some of them out. -/
lemma floors_sublist (hs : s.WellFormed) (hs' : s'.WellFormed)
    (h : ∀ g, s'.has g = true → s.has g = true) : s'.floors.Sublist s.floors := by
  have hnodup : s'.floors.Nodup := (floors_pairwise hs').imp fun h => Int.ne_of_lt h
  have hsub : s'.floors ⊆ s.floors := fun g hg =>
    (has_eq_true_iff_mem _ _).mp (h g ((has_eq_true_iff_mem _ _).mpr hg))
  exact List.sublist_of_subperm_of_pairwise (List.subperm_of_subset hnodup hsub)
    (floors_pairwise hs') (floors_pairwise hs)

lemma length_floors (s : StopSet) : s.floors.length = s.length := List.length_map _

lemma length_le (hs : s.WellFormed) (hs' : s'.WellFormed)
    (h : ∀ g, s'.has g = true → s.has g = true) : s'.length ≤ s.length := by
  simpa only [length_floors] using (floors_sublist hs hs' h).length_le

lemma length_lt (hs : s.WellFormed) (hs' : s'.WellFormed)
    (h : ∀ g, s'.has g = true → s.has g = true) {floor : Int} (hf : s.has floor = true)
    (hf' : s'.has floor = false) : s'.length < s.length := by
  refine Nat.lt_of_le_of_ne (length_le hs hs' h) fun he => ?_
  have hfloors := (floors_sublist hs hs' h).eq_of_length (by simpa only [length_floors] using he)
  rw [has_eq_true_iff_mem, ← hfloors, ← has_eq_true_iff_mem, hf'] at hf
  cases hf

end StopSet

/-! ### Cars -/

namespace Car

variable {c c' : Car} {lo hi aim : Int} {d : Direction}

/-- A car at a floor that there is, with stops at such floors. -/
def Placed (c : Car) : Prop := c.Within (-floorLimit) (floorLimit - 1)

/-- How many stops are still to come, each with half the way round, less what the car has gone of
the way to the first of them. -/
def circuit (c : Car) : Int :=
  (c.up.length + c.down.length) * (floorLimit + 1) -
    c.aim.elim 0 fun aim => floorLimit - Floor.around c.floor aim.1

lemma Within.placed (hspan : Floor.Span lo hi) (hb : c.Within lo hi) : c.Placed := by
  have hlower := hspan.lower
  have hupper := hspan.upper
  obtain ⟨hlo, hhi, hup, hdown⟩ := hb
  unfold IsFloor at *
  refine ⟨by omega, by omega, fun g hg => ?_, fun g hg => ?_⟩
  · have := hup g hg
    omega
  · have := hdown g hg
    omega

section
variable (hc : c.Placed)
include hc

lemma Placed.isFloor : IsFloor c.floor := by
  have hlower := hc.lower
  have hupper := hc.upper
  unfold IsFloor
  omega

lemma Placed.isFloor_up {g : Int} (hg : g ∈ c.up.floors) : IsFloor g := by
  have hin := hc.up g ((StopSet.has_eq_true_iff_mem _ _).mpr hg)
  unfold IsFloor
  omega

lemma Placed.isFloor_down {g : Int} (hg : g ∈ c.down.floors) : IsFloor g := by
  have hin := hc.down g ((StopSet.has_eq_true_iff_mem _ _).mpr hg)
  unfold IsFloor
  omega

lemma Placed.isFloor_aim (hw : c.WellFormed) (ha : c.aim = some (aim, d)) : IsFloor aim := by
  obtain ⟨hset, hstop⟩ := hasStop_of_aim hw ha
  cases d with
  | up => exact hc.isFloor_up ((StopSet.has_eq_true_iff_mem _ _).mp hstop)
  | down => exact hc.isFloor_down ((StopSet.has_eq_true_iff_mem _ _).mp hstop)
  | idle => cases hset

end

lemma circuit_le (c : Car) :
    c.circuit ≤ (c.up.length + c.down.length) * (floorLimit + 1) := by
  unfold circuit
  cases c.aim with
  | none => simp
  | some aim =>
    have := Floor.around_le c.floor aim.1
    rw [Option.elim_some]
    omega

lemma circuit_of_aim (ha : c.aim = some (aim, d)) :
    c.circuit = (c.up.length + c.down.length) * (floorLimit + 1) -
      (floorLimit - Floor.around c.floor aim) := by
  rw [circuit, ha, Option.elim_some]

lemma circuit_resting (hn : c.isEmpty = true) : c.circuit = 0 := by
  obtain ⟨hu, hd⟩ : c.up = [] ∧ c.down = [] := by simpa [isEmpty] using hn
  simp [circuit, aim, upAim, downAim, hu, hd, StopSet.floors]

lemma exists_aim (hn : c.isEmpty = false) : ∃ aim d, c.aim = some (aim, d) := by
  rcases aim_cases c with ⟨hu, hd, -⟩ | ⟨aim, -, ha⟩ | ⟨-, aim, -, ha⟩
  · simp [isEmpty, hu, hd] at hn
  · exact ⟨aim, .up, ha⟩
  · exact ⟨aim, .down, ha⟩

lemma isEmpty_eq_false_iff : c.isEmpty = false ↔ 0 < c.up.length + c.down.length := by
  simp only [isEmpty, Bool.and_eq_false_iff, List.isEmpty_eq_false_iff, ← List.length_pos_iff]
  omega

/-- Of the first stop to come there is something left to do. -/
lemma lt_circuit (hw : c.WellFormed) (hc : c.Placed) (hn : c.isEmpty = false) :
    (c.up.length + c.down.length - 1) * (floorLimit + 1) < c.circuit := by
  obtain ⟨aim, d, ha⟩ := exists_aim hn
  have := Floor.around_nonneg hc.isFloor (hc.isFloor_aim hw ha)
  rw [circuit_of_aim ha, Int.sub_mul]
  omega

lemma circuit_pos (hw : c.WellFormed) (hc : c.Placed) (hn : c.isEmpty = false) :
    0 < c.circuit := by
  have hrest := lt_circuit hw hc hn
  have hsome := isEmpty_eq_false_iff.mp hn
  unfold floorLimit at *
  omega

/-- With fewer stops a car has less of them to come, and with the same ones it is as far. -/
theorem Fewer.circuit_le (h : c'.Fewer c) (hw' : c'.WellFormed) (hw : c.WellFormed)
    (hc : c.Placed) : c'.circuit ≤ c.circuit := by
  have hup := StopSet.length_le hw.up hw'.up h.up
  have hdown := StopSet.length_le hw.down hw'.down h.down
  by_cases hless : c'.up.length + c'.down.length < c.up.length + c.down.length
  · have hn : c.isEmpty = false := isEmpty_eq_false_iff.mpr (by omega)
    have hbound := Car.circuit_le c'
    have hrest := lt_circuit hw hc hn
    unfold floorLimit at *
    omega
  · have hulen : c'.up.length = c.up.length := by omega
    have hdlen : c'.down.length = c.down.length := by omega
    have hufloors : c'.up.floors = c.up.floors :=
      (StopSet.floors_sublist hw.up hw'.up h.up).eq_of_length (by simpa [StopSet.floors])
    have hdfloors : c'.down.floors = c.down.floors :=
      (StopSet.floors_sublist hw.down hw'.down h.down).eq_of_length (by simpa [StopSet.floors])
    have haim : c'.aim = c.aim := by
      simp only [aim, upAim, downAim, h.floor, hufloors, hdfloors]
    rw [circuit, circuit, haim, h.floor, hulen, hdlen]

/-- A car that has moved on through its up-stops aims at none that is further away. -/
lemma around_upAim (hw : c.WellFormed) (hc : c.Placed) (ha : c.upAim = some aim)
    (hn : aim ≠ c.floor) {aim' : Int}
    (ha' : { c with floor := Floor.next c.floor aim }.upAim = some aim') :
    Floor.around (Floor.next c.floor aim) aim' ≤ Floor.around (Floor.next c.floor aim) aim := by
  have hw' : WellFormed { c with floor := Floor.next c.floor aim } := ⟨hw.up, hw.down⟩
  obtain ⟨hm, hfirst⟩ := upAim_spec hw ha
  obtain ⟨hm', hthen⟩ := upAim_spec hw' ha'
  refine Floor.around_le_of_up hc.isFloor (hc.isFloor_up hm) (hc.isFloor_up hm') hn ?_ ?_
  · exact hfirst.imp (fun h => ⟨h.1, h.2 _ hm'⟩) fun h => ⟨h.1, h.2 _ hm'⟩
  · exact hthen.imp (fun h => ⟨h.1, h.2 _ hm⟩) fun h => ⟨h.1, h.2 _ hm⟩

lemma around_downAim (hw : c.WellFormed) (hc : c.Placed) (ha : c.downAim = some aim)
    (hn : aim ≠ c.floor) {aim' : Int}
    (ha' : { c with floor := Floor.next c.floor aim }.downAim = some aim') :
    Floor.around (Floor.next c.floor aim) aim' ≤ Floor.around (Floor.next c.floor aim) aim := by
  have hw' : WellFormed { c with floor := Floor.next c.floor aim } := ⟨hw.up, hw.down⟩
  obtain ⟨hm, hfirst⟩ := downAim_spec hw ha
  obtain ⟨hm', hthen⟩ := downAim_spec hw' ha'
  refine Floor.around_le_of_down hc.isFloor (hc.isFloor_down hm) (hc.isFloor_down hm') hn ?_ ?_
  · exact hfirst.imp (fun h => ⟨h.1, h.2 _ hm'⟩) fun h => ⟨h.1, h.2 _ hm'⟩
  · exact hthen.imp (fun h => ⟨h.1, h.2 _ hm⟩) fun h => ⟨h.1, h.2 _ hm⟩

/-- Which of its stops a car aims at. -/
lemma aim_eq_some (ha : c.aim = some (aim, d)) :
    c.up ≠ [] ∧ c.upAim = some aim ∨ c.up = [] ∧ c.downAim = some aim := by
  rcases aim_cases c with ⟨-, -, hnone⟩ | ⟨floor, hfloor, hsome⟩ | ⟨hu, floor, hfloor, hsome⟩
  · cases hnone.symm.trans ha
  · cases hsome.symm.trans ha
    exact .inl ⟨fun hu => by simp [upAim, hu, StopSet.floors] at hfloor, hfloor⟩
  · cases hsome.symm.trans ha
    exact .inr ⟨hu, hfloor⟩

/-- A car that has moved on aims at no stop that is further away. -/
theorem around_aim_le (hw : c.WellFormed) (hc : c.Placed) (ha : c.aim = some (aim, d))
    (hn : aim ≠ c.floor) {aim' : Int} {d' : Direction}
    (ha' : { c with floor := Floor.next c.floor aim }.aim = some (aim', d')) :
    Floor.around (Floor.next c.floor aim) aim' ≤ Floor.around (Floor.next c.floor aim) aim := by
  rcases aim_eq_some ha with ⟨hu, hup⟩ | ⟨hu, hdown⟩ <;>
    rcases aim_eq_some ha' with ⟨hu', hup'⟩ | ⟨hu', hdown'⟩
  · exact around_upAim hw hc hup hn hup'
  · exact absurd hu' hu
  · exact absurd hu hu'
  · exact around_downAim hw hc hdown hn hdown'

/-! ### Steps -/

lemma serve_fewer (hw : c.WellFormed) (floor : Int) (d : Direction) :
    (c.serve floor d).Fewer c := by
  refine ⟨serve_floor _ _ _, fun g hg => ?_, fun g hg => ?_⟩ <;> cases d
  · exact ((StopSet.has_remove hw.up _ _).mp hg).2
  · exact StopSet.has_of_has_clearCabin hw.up hg
  · exact StopSet.has_of_has_clearCabin hw.up hg
  · exact StopSet.has_of_has_clearCabin hw.down hg
  · exact ((StopSet.has_remove hw.down _ _).mp hg).2
  · exact ((StopSet.has_remove hw.down _ _).mp hg).2

/-- Serving a stop takes it away. -/
lemma length_serve (hw : c.WellFormed) {floor : Int} (hd : d.isHall = true)
    (hs : c.hasStop floor d = true) :
    (c.serve floor d).up.length + (c.serve floor d).down.length <
      c.up.length + c.down.length := by
  have hw' := hw.serve floor d
  have hfewer := serve_fewer hw floor d
  have hup := StopSet.length_le hw.up hw'.up hfewer.up
  have hdown := StopSet.length_le hw.down hw'.down hfewer.down
  cases d with
  | up =>
    have hless := StopSet.length_lt hw.up hw'.up hfewer.up hs (StopSet.has_remove_self hw.up floor)
    omega
  | down =>
    have hless := StopSet.length_lt hw.down hw'.down hfewer.down hs
      (StopSet.has_remove_self hw.down floor)
    omega
  | idle => cases hd

/-- Each step takes a car with stops closer to rest, wherever they are. -/
theorem circuit_advance (hw : c.WellFormed) (hc : c.Placed) (hn : c.isEmpty = false) :
    c.advance.1.Placed ∧ c.advance.1.circuit < c.circuit := by
  obtain ⟨aim, d, ha⟩ := exists_aim hn
  obtain ⟨hd, hs⟩ := hasStop_of_aim hw ha
  have hnext := Floor.next_isFloor hc.isFloor aim
  have hthere : Placed { c with floor := Floor.next c.floor aim } :=
    ⟨hnext.1, Int.le_sub_one_of_lt hnext.2, hc.up, hc.down⟩
  have hw' : WellFormed { c with floor := Floor.next c.floor aim } := ⟨hw.up, hw.down⟩
  rw [advance_fst ha]
  dsimp only
  split_ifs with harrived
  · -- On arrival one stop less is to come.
    refine ⟨(serve_fewer hw' aim d).within hthere, ?_⟩
    have hqueued : ({ c with floor := Floor.next c.floor aim } : Car).hasStop aim d = true := by
      cases d <;> exact hs
    have hless := length_serve hw' hd hqueued
    have hbound := circuit_le (serve { c with floor := Floor.next c.floor aim } aim d)
    have hrest := lt_circuit hw hc hn
    dsimp only at hless
    unfold floorLimit at *
    omega
  · refine ⟨hthere, ?_⟩
    have hmoved : aim ≠ c.floor := by
      rintro rfl
      exact harrived (Floor.next_self _)
    obtain ⟨aim', d', ha'⟩ := exists_aim (c := { c with floor := Floor.next c.floor aim }) hn
    have hcloser := Floor.around_next hc.isFloor (hc.isFloor_aim hw ha) hmoved
    have hle := around_aim_le hw hc ha hmoved ha'
    rw [circuit_of_aim ha, circuit_of_aim ha']
    dsimp only
    omega

/-- The measure of cars with stops that may lie anywhere. -/
def Measure.circuit : Measure where
  Covers := Placed
  rank := Car.circuit
  advance := circuit_advance
  fewer h hw' hw hc := ⟨h.within hc, h.circuit_le hw' hw hc⟩
  pos := circuit_pos
  resting := circuit_resting

end Car
end ElevatorBank
