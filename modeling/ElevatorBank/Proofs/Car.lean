import ElevatorBank.Car
import ElevatorBank.Proofs.StopSet

/-! Well-formed cars, and what each operation on a car does to the requests it holds. -/
namespace ElevatorBank.Car

/-- Both stop sets of a well-formed car are well-formed. -/
structure WellFormed (c : Car) : Prop where
  up : c.up.WellFormed
  down : c.down.WellFormed

theorem start_wellFormed (id : CarId) (floor : Int) : (start id floor).WellFormed :=
  ⟨StopSet.wellFormed_nil, StopSet.wellFormed_nil⟩

variable {c : Car}

lemma WellFormed.enqueueCabin (hw : c.WellFormed) (floor : Int) :
    (c.enqueueCabin floor).WellFormed := by
  unfold Car.enqueueCabin
  split_ifs
  · exact ⟨hw.up.put _ _, hw.down⟩
  · exact ⟨hw.up, hw.down.put _ _⟩
  · exact ⟨hw.up.put _ _, hw.down⟩
  · exact ⟨hw.up, hw.down.put _ _⟩

theorem WellFormed.enqueue (hw : c.WellFormed) (t : Target) : (c.enqueue t).WellFormed := by
  unfold Car.enqueue
  split
  · exact ⟨hw.up.put _ _, hw.down⟩
  · exact ⟨hw.up, hw.down.put _ _⟩
  · exact hw.enqueueCabin _

theorem WellFormed.withdraw (hw : c.WellFormed) (t : Target) : (c.withdraw t).WellFormed := by
  unfold Car.withdraw
  split
  · exact ⟨hw.up.put _ _, hw.down⟩
  · exact ⟨hw.up, hw.down.put _ _⟩
  · exact ⟨hw.up.put _ _, hw.down.put _ _⟩

theorem WellFormed.serve (hw : c.WellFormed) (floor : Int) (d : Direction) :
    (c.serve floor d).WellFormed := by
  unfold Car.serve
  split <;> exact ⟨hw.up.put _ _, hw.down.put _ _⟩

/-! ### Numbers, floors and modes -/

@[simp] lemma enqueueCabin_id (c : Car) (g : Int) : (c.enqueueCabin g).id = c.id := by
  unfold enqueueCabin
  split_ifs <;> rfl

@[simp] lemma enqueue_id (c : Car) (t : Target) : (c.enqueue t).id = c.id := by
  unfold enqueue
  split <;> simp

@[simp] lemma withdraw_id (c : Car) (t : Target) : (c.withdraw t).id = c.id := by
  unfold withdraw
  split <;> rfl

@[simp] lemma serve_id (c : Car) (floor : Int) (d : Direction) : (c.serve floor d).id = c.id := by
  unfold serve
  split <;> rfl

@[simp] lemma enqueueCabin_floor (c : Car) (g : Int) : (c.enqueueCabin g).floor = c.floor := by
  unfold enqueueCabin
  split_ifs <;> rfl

@[simp] lemma enqueue_floor (c : Car) (t : Target) : (c.enqueue t).floor = c.floor := by
  unfold enqueue
  split <;> simp

@[simp] lemma withdraw_floor (c : Car) (t : Target) : (c.withdraw t).floor = c.floor := by
  unfold withdraw
  split <;> rfl

@[simp] lemma serve_floor (c : Car) (floor : Int) (d : Direction) :
    (c.serve floor d).floor = c.floor := by
  unfold serve
  split <;> rfl

@[simp] lemma enqueueCabin_mode (c : Car) (g : Int) : (c.enqueueCabin g).mode = c.mode := by
  unfold enqueueCabin
  split_ifs <;> rfl

@[simp] lemma enqueue_mode (c : Car) (t : Target) : (c.enqueue t).mode = c.mode := by
  unfold enqueue
  split <;> simp

@[simp] lemma withdraw_mode (c : Car) (t : Target) : (c.withdraw t).mode = c.mode := by
  unfold withdraw
  split <;> rfl

/-! ### Hall requests -/

@[simp] lemma hasHallStop_with_floor (c : Car) (floor g : Int) (d : Direction) :
    ({ c with floor } : Car).hasHallStop g d = c.hasHallStop g d := by cases d <;> rfl

@[simp] lemma hasHallStop_with_mode (c : Car) (mode : Mode) (g : Int) (d : Direction) :
    ({ c with mode } : Car).hasHallStop g d = c.hasHallStop g d := by cases d <;> rfl

/-- A passenger's stop adds no hall request and takes none away. -/
theorem hasHallStop_enqueueCabin (hw : c.WellFormed) (floor g : Int) (d : Direction) :
    (c.enqueueCabin floor).hasHallStop g d = c.hasHallStop g d := by
  have hu : ((c.up.markCabin floor).requests g).hall = (c.up.requests g).hall := by
    rw [StopSet.requests_markCabin hw.up]
    split_ifs with hg
    · rw [hg]
    · rfl
  have hd : ((c.down.markCabin floor).requests g).hall = (c.down.requests g).hall := by
    rw [StopSet.requests_markCabin hw.down]
    split_ifs with hg
    · rw [hg]
    · rfl
  unfold enqueueCabin
  cases d <;> split_ifs <;> simp only [hasHallStop, hu, hd]

theorem hasHallStop_enqueue (hw : c.WellFormed) {t : Target} (ht : t.direction.isHall = true)
    (u : Target) :
    (c.enqueue t).hasHallStop u.floor u.direction = true ↔
      u = t ∨ c.hasHallStop u.floor u.direction = true := by
  obtain ⟨f, d⟩ := t
  obtain ⟨g, e⟩ := u
  cases d <;> cases e <;>
    simp [enqueue, hasHallStop, hw.up, hw.down, Direction.isHall] at ht ⊢ <;>
    by_cases hg : g = f <;> simp [hg]

/-- A press for another floor leaves the requests for this one as they are. -/
lemma requests_enqueue_of_ne (hw : c.WellFormed) {t : Target} {floor : Int}
    (ht : floor ≠ t.floor) :
    (c.enqueue t).up.requests floor = c.up.requests floor ∧
      (c.enqueue t).down.requests floor = c.down.requests floor := by
  unfold Car.enqueue Car.enqueueCabin
  split <;> try split_ifs
  all_goals simp [hw.up, hw.down, ht]

theorem hasHallStop_withdraw (hw : c.WellFormed) {t : Target} (ht : t.direction.isHall = true)
    (u : Target) :
    (c.withdraw t).hasHallStop u.floor u.direction = true ↔
      u ≠ t ∧ c.hasHallStop u.floor u.direction = true := by
  obtain ⟨f, d⟩ := t
  obtain ⟨g, e⟩ := u
  cases d <;> cases e <;>
    simp [withdraw, hasHallStop, hw.up, hw.down, Direction.isHall] at ht ⊢ <;>
    by_cases hg : g = f <;> simp [hg]

/-- Serving a stop ends the hall request of the one set only. -/
theorem hasHallStop_serve (hw : c.WellFormed) {t : Target} (ht : t.direction.isHall = true)
    (u : Target) :
    (c.serve t.floor t.direction).hasHallStop u.floor u.direction = true ↔
      u ≠ t ∧ c.hasHallStop u.floor u.direction = true := by
  obtain ⟨f, d⟩ := t
  obtain ⟨g, e⟩ := u
  cases d <;> cases e <;>
    simp [serve, hasHallStop, hw.up, hw.down, Direction.isHall] at ht ⊢ <;>
    by_cases hg : g = f <;> simp [hg, Requesters.nobody]

/-- Asking a second time changes nothing. -/
theorem enqueue_enqueue (hw : c.WellFormed) {t : Target} (ht : t.direction.isHall = true) :
    (c.enqueue t).enqueue t = c.enqueue t := by
  obtain ⟨f, d⟩ := t
  cases d
  · simp only [enqueue, StopSet.markHall_markHall hw.up]
  · simp only [enqueue, StopSet.markHall_markHall hw.down]
  · cases ht

/-! ### Passengers' requests -/

/-- A hall call at a floor leaves the passengers bound for it as they are. -/
theorem hasCabinStop_enqueue (hw : c.WellFormed) {t : Target} (ht : t.direction.isHall = true)
    (g : Int) : (c.enqueue t).hasCabinStop g = c.hasCabinStop g := by
  obtain ⟨f, d⟩ := t
  cases d <;> simp [enqueue, hasCabinStop, hw.up, hw.down, Direction.isHall] at ht ⊢ <;>
    by_cases hg : g = f <;> simp [hg]

theorem hasCabinStop_withdraw (hw : c.WellFormed) {t : Target} (ht : t.direction.isHall = true)
    (g : Int) : (c.withdraw t).hasCabinStop g = c.hasCabinStop g := by
  obtain ⟨f, d⟩ := t
  cases d <;> simp [withdraw, hasCabinStop, hw.up, hw.down, Direction.isHall] at ht ⊢ <;>
    by_cases hg : g = f <;> simp [hg]

/-- At a served floor everybody bound for it gets off, whichever set the request is in. -/
theorem hasCabinStop_serve (hw : c.WellFormed) (floor : Int) (d : Direction) (g : Int) :
    (c.serve floor d).hasCabinStop g = true ↔ g ≠ floor ∧ c.hasCabinStop g = true := by
  cases d <;> simp [serve, hasCabinStop, hw.up, hw.down] <;>
    by_cases hg : g = floor <;> simp [hg, Requesters.nobody]

@[simp] lemma hasCabinStop_with_floor (c : Car) (floor g : Int) :
    ({ c with floor } : Car).hasCabinStop g = c.hasCabinStop g := rfl

@[simp] lemma hasCabinStop_with_mode (c : Car) (mode : Mode) (g : Int) :
    ({ c with mode } : Car).hasCabinStop g = c.hasCabinStop g := rfl

/-- A passenger's stop is queued for its floor, whichever set it goes to. -/
theorem hasCabinStop_enqueueCabin (hw : c.WellFormed) (floor g : Int) :
    (c.enqueueCabin floor).hasCabinStop g = true ↔ g = floor ∨ c.hasCabinStop g = true := by
  unfold enqueueCabin
  by_cases hg : g = floor <;> split_ifs <;> simp [hasCabinStop, hw.up, hw.down, hg]

/-- A stop that no passenger asked for has been asked for by a landing. -/
theorem hasHallStop_of_hasStop (hw : c.WellFormed) {floor : Int} {d : Direction}
    (hd : d.isHall = true) (hs : c.hasStop floor d = true)
    (hn : c.hasCabinStop floor = false) : c.hasHallStop floor d = true := by
  cases d <;>
    simp_all [hasStop, hasHallStop, hasCabinStop, StopSet.has_iff_any hw.up,
      StopSet.has_iff_any hw.down, Requesters.any, Direction.isHall]

/-! ### Aims -/

/-- Within the up-stops a car aims at the nearest one at or above it, and at the highest
one if all of them lie below. -/
theorem upAim_spec (hw : c.WellFormed) {aim : Int} (h : c.upAim = some aim) :
    aim ∈ c.up.floors ∧
      (c.floor ≤ aim ∧ (∀ f ∈ c.up.floors, c.floor ≤ f → aim ≤ f) ∨
        aim < c.floor ∧ ∀ f ∈ c.up.floors, f ≤ aim) := by
  have hsorted := StopSet.floors_pairwise hw.up
  unfold upAim at h
  cases hfind : c.up.floors.find? (c.floor ≤ ·) with
  | some a =>
    obtain rfl : a = aim := by simpa [hfind] using h
    obtain ⟨ha, before, after, heq, hbefore⟩ := List.find?_eq_some_iff_append.mp hfind
    rw [heq] at hsorted ⊢
    obtain ⟨-, hafter, -⟩ := List.pairwise_append.mp hsorted
    refine ⟨by simp, .inl ⟨by simpa using ha, fun f hf hle => ?_⟩⟩
    rcases List.mem_append.mp hf with hf | hf
    · have := hbefore f hf
      simp at this
      omega
    · rcases List.mem_cons.mp hf with rfl | hf
      · exact Int.le_refl _
      · have := (List.pairwise_cons.mp hafter).1 f hf
        omega
  | none =>
    rw [hfind] at h
    obtain ⟨before, heq⟩ := List.getLast?_eq_some_iff.mp (by simpa using h)
    have hbelow := List.find?_eq_none.mp hfind
    rw [heq] at hsorted hbelow ⊢
    obtain ⟨-, -, hlast⟩ := List.pairwise_append.mp hsorted
    refine ⟨by simp, .inr ⟨by simpa using hbelow aim (by simp), fun f hf => ?_⟩⟩
    rcases List.mem_append.mp hf with hf | hf
    · have := hlast f hf aim (by simp)
      omega
    · obtain rfl := List.mem_singleton.mp hf
      exact Int.le_refl _

/-- Within the down-stops a car aims at the nearest one at or below it, and at the lowest
one if all of them lie above. -/
theorem downAim_spec (hw : c.WellFormed) {aim : Int} (h : c.downAim = some aim) :
    aim ∈ c.down.floors ∧
      (aim ≤ c.floor ∧ (∀ f ∈ c.down.floors, f ≤ c.floor → f ≤ aim) ∨
        c.floor < aim ∧ ∀ f ∈ c.down.floors, aim ≤ f) := by
  have hsorted := StopSet.floors_pairwise hw.down
  unfold downAim at h
  cases hfind : c.down.floors.reverse.find? (· ≤ c.floor) with
  | some a =>
    obtain rfl : a = aim := by simpa [hfind] using h
    obtain ⟨ha, before, after, heq, hbefore⟩ := List.find?_eq_some_iff_append.mp hfind
    have hmem : ∀ f, f ∈ c.down.floors ↔ f ∈ before ++ a :: after := by
      intro f
      rw [← heq, List.mem_reverse]
    have hback := List.pairwise_reverse.mpr hsorted
    rw [heq] at hback
    obtain ⟨-, hafter, -⟩ := List.pairwise_append.mp hback
    refine ⟨(hmem a).mpr (by simp), .inl ⟨by simpa using ha, fun f hf hle => ?_⟩⟩
    rcases List.mem_append.mp ((hmem f).mp hf) with hf | hf
    · have := hbefore f hf
      simp at this
      omega
    · rcases List.mem_cons.mp hf with rfl | hf
      · exact Int.le_refl _
      · have := (List.pairwise_cons.mp hafter).1 f hf
        omega
  | none =>
    rw [hfind] at h
    obtain ⟨after, heq⟩ := List.head?_eq_some_iff.mp (by simpa using h)
    have habove := List.find?_eq_none.mp hfind
    simp only [List.mem_reverse] at habove
    rw [heq] at hsorted habove ⊢
    refine ⟨by simp, .inr ⟨by simpa using habove aim (by simp), fun f hf => ?_⟩⟩
    rcases List.mem_cons.mp hf with rfl | hf
    · exact Int.le_refl _
    · have := (List.pairwise_cons.mp hsorted).1 f hf
      omega

/-- Up-stops win over down-stops, and a car without stops has no aim. -/
theorem aim_cases (c : Car) :
    c.up = [] ∧ c.down = [] ∧ c.aim = none ∨
      (∃ floor, c.upAim = some floor ∧ c.aim = some (floor, .up)) ∨
      c.up = [] ∧ ∃ floor, c.downAim = some floor ∧ c.aim = some (floor, .down) := by
  unfold aim upAim downAim
  cases hup : c.up with
  | cons stop rest =>
    refine .inr (.inl ?_)
    cases hfind : (StopSet.floors (stop :: rest)).find? (c.floor ≤ ·) with
    | some floor => exact ⟨floor, by simp⟩
    | none =>
      obtain ⟨floor, hlast⟩ : ∃ floor, (StopSet.floors (stop :: rest)).getLast? = some floor :=
        ⟨_, List.getLast?_eq_some_getLast (by simp [StopSet.floors])⟩
      exact ⟨floor, by simp [hlast]⟩
  | nil =>
    cases hdown : c.down with
    | nil => exact .inl ⟨rfl, rfl, rfl⟩
    | cons stop rest =>
      refine .inr (.inr ⟨rfl, ?_⟩)
      cases hfind : (StopSet.floors (stop :: rest)).reverse.find? (· ≤ c.floor) with
      | some floor => exact ⟨floor, by simp [StopSet.floors]⟩
      | none => exact ⟨stop.floor, by simp [StopSet.floors]⟩

/-- The aim of a car is queued in the set it is said to be in. -/
theorem hasStop_of_aim (hw : c.WellFormed) {floor : Int} {d : Direction}
    (h : c.aim = some (floor, d)) : d.isHall = true ∧ c.hasStop floor d = true := by
  rcases aim_cases c with ⟨-, -, hn⟩ | ⟨g, hg, ha⟩ | ⟨-, g, hg, ha⟩
  · rw [hn] at h
    cases h
  · rw [ha] at h
    cases h
    exact ⟨rfl, (StopSet.has_eq_true_iff_mem _ _).mpr (upAim_spec hw hg).1⟩
  · rw [ha] at h
    cases h
    exact ⟨rfl, (StopSet.has_eq_true_iff_mem _ _).mpr (downAim_spec hw hg).1⟩

end ElevatorBank.Car
