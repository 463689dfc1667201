import ElevatorBank.Proofs.Fleet

/-!
# Ranks

How many more steps a car can need. A car climbs through its up-stops and turns back for
those it has passed, then descends through its down-stops and turns back for those. Each
step takes it closer to rest (`rank_advance`), and so does giving up a stop
(`Fewer.rank_le`).
-/
namespace ElevatorBank.Car

/-- A car and all its stops lie between two floors. -/
structure Within (lo hi : Int) (c : Car) : Prop where
  lower : lo ≤ c.floor
  upper : c.floor ≤ hi
  up : ∀ floor, c.up.has floor = true → lo ≤ floor ∧ floor ≤ hi
  down : ∀ floor, c.down.has floor = true → lo ≤ floor ∧ floor ≤ hi

/-- A bound on the steps that a car between two floors still makes. -/
def rank (lo hi : Int) (c : Car) : Int :=
  if ∃ floor ∈ c.up.floors, c.floor ≤ floor then
    hi - c.floor + 3 * (hi - lo) + 1 + (c.up.has c.floor).toNat
  else if c.up ≠ [] then c.floor - lo + 2 * (hi - lo) + 1
  else if ∃ floor ∈ c.down.floors, floor ≤ c.floor then
    c.floor - lo + (hi - lo) + (c.down.has c.floor).toNat
  else if c.down ≠ [] then hi - c.floor
  else 0

/-- One car is where another one is and has no stop but those of the other one. -/
structure Fewer (c' c : Car) : Prop where
  floor : c'.floor = c.floor
  up : ∀ floor, c'.up.has floor = true → c.up.has floor = true
  down : ∀ floor, c'.down.has floor = true → c.down.has floor = true

variable {lo hi : Int} {c c' : Car}

/-! ### Ranks in every phase -/

lemma rank_climbing {floor : Int} (hu : c.up.has floor = true) (hf : c.floor ≤ floor) :
    c.rank lo hi = hi - c.floor + 3 * (hi - lo) + 1 + (c.up.has c.floor).toNat :=
  if_pos ⟨floor, (StopSet.has_eq_true_iff_mem _ _).mp hu, hf⟩

lemma rank_returning {floor : Int} (hu : c.up.has floor = true)
    (hp : ∀ g, c.up.has g = true → g < c.floor) :
    c.rank lo hi = c.floor - lo + 2 * (hi - lo) + 1 := by
  have hne : c.up ≠ [] := fun he => by simp [he, StopSet.has] at hu
  have hpassed : ¬∃ floor ∈ c.up.floors, c.floor ≤ floor := by
    rintro ⟨g, hg, hle⟩
    have := hp g ((StopSet.has_eq_true_iff_mem _ _).mpr hg)
    omega
  rw [rank, if_neg hpassed, if_pos hne]

lemma rank_descending (hu : c.up = []) {floor : Int} (hd : c.down.has floor = true)
    (hf : floor ≤ c.floor) :
    c.rank lo hi = c.floor - lo + (hi - lo) + (c.down.has c.floor).toNat := by
  have hex : ∃ floor ∈ c.down.floors, floor ≤ c.floor :=
    ⟨floor, (StopSet.has_eq_true_iff_mem _ _).mp hd, hf⟩
  rw [rank, if_neg (by simp [hu, StopSet.floors]), if_neg (by simp [hu]), if_pos hex]

lemma rank_recovering (hu : c.up = []) {floor : Int} (hd : c.down.has floor = true)
    (hp : ∀ g, c.down.has g = true → c.floor < g) : c.rank lo hi = hi - c.floor := by
  have hne : c.down ≠ [] := fun he => by simp [he, StopSet.has] at hd
  have hpassed : ¬∃ floor ∈ c.down.floors, floor ≤ c.floor := by
    rintro ⟨g, hg, hle⟩
    have := hp g ((StopSet.has_eq_true_iff_mem _ _).mpr hg)
    omega
  rw [rank, if_neg (by simp [hu, StopSet.floors]), if_neg (by simp [hu]), if_neg hpassed,
    if_pos hne]

lemma rank_resting (hu : c.up = []) (hd : c.down = []) : c.rank lo hi = 0 := by
  simp [rank, hu, hd, StopSet.floors]

/-- The phases of a car. -/
lemma phase_cases (c : Car) :
    (∃ floor, c.up.has floor = true ∧ c.floor ≤ floor) ∨
    (∃ floor, c.up.has floor = true ∧ ∀ g, c.up.has g = true → g < c.floor) ∨
    c.up = [] ∧ ((∃ floor, c.down.has floor = true ∧ floor ≤ c.floor) ∨
      (∃ floor, c.down.has floor = true ∧ ∀ g, c.down.has g = true → c.floor < g) ∨
      c.down = []) := by
  by_cases hahead : ∃ floor, c.up.has floor = true ∧ c.floor ≤ floor
  · exact .inl hahead
  have hpassed : ∀ g, c.up.has g = true → g < c.floor := fun g hg =>
    Int.not_le.mp fun hle => hahead ⟨g, hg, hle⟩
  by_cases hup : ∃ floor, c.up.has floor = true
  · obtain ⟨floor, hu⟩ := hup
    exact .inr (.inl ⟨floor, hu, hpassed⟩)
  refine .inr (.inr ⟨(StopSet.eq_nil_iff_has _).mpr fun g => ?_, ?_⟩)
  · exact Bool.eq_false_iff.mpr fun hg => hup ⟨g, hg⟩
  by_cases hbelow : ∃ floor, c.down.has floor = true ∧ floor ≤ c.floor
  · exact .inl hbelow
  have habove : ∀ g, c.down.has g = true → c.floor < g := fun g hg =>
    Int.not_le.mp fun hle => hbelow ⟨g, hg, hle⟩
  by_cases hdown : ∃ floor, c.down.has floor = true
  · obtain ⟨floor, hd⟩ := hdown
    exact .inr (.inl ⟨floor, hd, habove⟩)
  · refine .inr (.inr ((StopSet.eq_nil_iff_has _).mpr fun g => ?_))
    exact Bool.eq_false_iff.mpr fun hg => hdown ⟨g, hg⟩

/-! ### Bounds -/

lemma rank_le_of_nil_passed (hw : c.Within lo hi) (hu : c.up = [])
    (hp : ∀ g, c.down.has g = true → c.floor < g) : c.rank lo hi ≤ hi - c.floor := by
  have := hw.upper
  rcases phase_cases c with ⟨g, hg, -⟩ | ⟨g, hg, -⟩ | ⟨-, ⟨g, hg, hle⟩ | ⟨g, hg, -⟩ | hd⟩
  · simp [hu, StopSet.has] at hg
  · simp [hu, StopSet.has] at hg
  · have := hp g hg
    omega
  · exact Int.le_of_eq (rank_recovering hu hg hp)
  · rw [rank_resting hu hd]
    omega

lemma rank_le_of_nil (hw : c.Within lo hi) (hu : c.up = []) :
    c.rank lo hi ≤ c.floor - lo + (hi - lo) + (c.down.has c.floor).toNat := by
  have := hw.lower
  have := hw.upper
  rcases phase_cases c with ⟨g, hg, -⟩ | ⟨g, hg, -⟩ | ⟨-, ⟨g, hg, hle⟩ | ⟨g, hg, hp⟩ | hd⟩
  · simp [hu, StopSet.has] at hg
  · simp [hu, StopSet.has] at hg
  · exact Int.le_of_eq (rank_descending hu hg hle)
  · rw [rank_recovering hu hg hp]
    omega
  · rw [rank_resting hu hd]
    omega

lemma rank_le_of_passed (hw : c.Within lo hi) (hp : ∀ g, c.up.has g = true → g < c.floor) :
    c.rank lo hi ≤ c.floor - lo + 2 * (hi - lo) + 1 := by
  have := hw.lower
  have := hw.upper
  rcases phase_cases c with ⟨g, hg, hle⟩ | ⟨g, hg, -⟩ | ⟨hu, -⟩
  · have := hp g hg
    omega
  · exact Int.le_of_eq (rank_returning hg hp)
  · have := rank_le_of_nil hw hu
    have := Bool.toNat_le (c.down.has c.floor)
    omega

lemma rank_le (hw : c.Within lo hi) :
    c.rank lo hi ≤ hi - c.floor + 3 * (hi - lo) + 1 + (c.up.has c.floor).toNat := by
  have := hw.lower
  have := hw.upper
  rcases phase_cases c with ⟨g, hg, hle⟩ | ⟨g, hg, hp⟩ | ⟨hu, -⟩
  · exact Int.le_of_eq (rank_climbing hg hle)
  · have := rank_le_of_passed hw hp
    omega
  · have := rank_le_of_nil hw hu
    have := Bool.toNat_le (c.down.has c.floor)
    omega

/-- Only a car without stops has rank zero. -/
theorem rank_pos (hw : c.Within lo hi) (hn : c.isEmpty = false) : 0 < c.rank lo hi := by
  have := hw.lower
  have := hw.upper
  rcases phase_cases c with ⟨g, hg, hle⟩ | ⟨g, hg, hp⟩ | ⟨hu, ⟨g, hg, hle⟩ | ⟨g, hg, hp⟩ | hd⟩
  · rw [rank_climbing hg hle]
    omega
  · rw [rank_returning hg hp]
    omega
  · have hlo := (hw.down g hg).1
    rw [rank_descending hu hg hle]
    by_cases hhere : g = c.floor
    · rw [← hhere, hg]
      simp
      omega
    · omega
  · have hhi := (hw.down g hg).2
    have := hp g hg
    rw [rank_recovering hu hg hp]
    omega
  · simp [isEmpty, hu, hd] at hn

theorem rank_le_bound (hw : c.Within lo hi) : c.rank lo hi ≤ 4 * (hi - lo + 1) := by
  have := hw.lower
  have := rank_le hw
  have := Bool.toNat_le (c.up.has c.floor)
  omega

/-! ### Giving up stops -/

lemma Fewer.refl (c : Car) : c.Fewer c := ⟨rfl, fun _ h => h, fun _ h => h⟩

lemma Fewer.trans {c'' : Car} (h : c''.Fewer c') (h' : c'.Fewer c) : c''.Fewer c where
  floor := h.floor.trans h'.floor
  up := fun floor hu => h'.up floor (h.up floor hu)
  down := fun floor hd => h'.down floor (h.down floor hd)

lemma Fewer.within (h : c'.Fewer c) (hw : c.Within lo hi) : c'.Within lo hi where
  lower := h.floor ▸ hw.lower
  upper := h.floor ▸ hw.upper
  up := fun floor hu => hw.up floor (h.up floor hu)
  down := fun floor hd => hw.down floor (h.down floor hd)

lemma Within.enqueue (hw : c.WellFormed) (hb : c.Within lo hi) {t : Target}
    (ht : lo ≤ t.floor ∧ t.floor ≤ hi) : (c.enqueue t).Within lo hi := by
  have hw' := hw.enqueue t
  refine ⟨?_, ?_, fun floor hs => ?_, fun floor hs => ?_⟩
  · rw [enqueue_floor]
    exact hb.lower
  · rw [enqueue_floor]
    exact hb.upper
  all_goals by_cases hg : floor = t.floor
  · exact hg ▸ ht
  · rw [StopSet.has_iff_any hw'.up, (requests_enqueue_of_ne hw hg).1,
      ← StopSet.has_iff_any hw.up] at hs
    exact hb.up floor hs
  · exact hg ▸ ht
  · rw [StopSet.has_iff_any hw'.down, (requests_enqueue_of_ne hw hg).2,
      ← StopSet.has_iff_any hw.down] at hs
    exact hb.down floor hs

lemma Fewer.up_nil (h : c'.Fewer c) (hu : c.up = []) : c'.up = [] := by
  refine (StopSet.eq_nil_iff_has _).mpr fun g => Bool.eq_false_iff.mpr fun hg => ?_
  have hqueued := h.up g hg
  simp [hu, StopSet.has] at hqueued

/-- A car with fewer stops is no further from rest. -/
theorem Fewer.rank_le (h : c'.Fewer c) (hw : c.Within lo hi) : c'.rank lo hi ≤ c.rank lo hi := by
  have hw' := h.within hw
  have hfloor := h.floor
  have htoNat : ∀ {a b : Bool}, (a = true → b = true) → a.toNat ≤ b.toNat := by decide
  rcases phase_cases c with ⟨g, hg, hle⟩ | ⟨g, hg, hp⟩ | ⟨hu, ⟨g, hg, hle⟩ | ⟨g, hg, hp⟩ | hd⟩
  · have hbound := Car.rank_le hw'
    have hhere := htoNat (h.up c.floor)
    rw [rank_climbing hg hle]
    rw [hfloor] at hbound
    omega
  · have hbound := rank_le_of_passed hw' fun g hg => hfloor ▸ hp g (h.up g hg)
    rw [rank_returning hg hp]
    omega
  · have hbound := rank_le_of_nil hw' (h.up_nil hu)
    have hhere := htoNat (h.down c.floor)
    rw [rank_descending hu hg hle]
    rw [hfloor] at hbound
    omega
  · have hbound := rank_le_of_nil_passed hw' (h.up_nil hu) fun g hg => hfloor ▸ hp g (h.down g hg)
    rw [rank_recovering hu hg hp]
    omega
  · have hd' : c'.down = [] := by
      refine (StopSet.eq_nil_iff_has _).mpr fun g => Bool.eq_false_iff.mpr fun hg => ?_
      have hqueued := h.down g hg
      simp [hd, StopSet.has] at hqueued
    exact Int.le_of_eq ((rank_resting (h.up_nil hu) hd').trans (rank_resting hu hd).symm)

lemma withdraw_fewer (hw : c.WellFormed) (t : Target) : (c.withdraw t).Fewer c := by
  refine ⟨withdraw_floor c t, fun floor hu => ?_, fun floor hd => ?_⟩
  · unfold withdraw at hu
    split at hu
    · exact StopSet.has_of_has_clearHall hw.up hu
    · exact hu
    · exact ((StopSet.has_remove hw.up _ _).mp hu).2
  · unfold withdraw at hd
    split at hd
    · exact hd
    · exact StopSet.has_of_has_clearHall hw.down hd
    · exact ((StopSet.has_remove hw.down _ _).mp hd).2

/-! ### Steps -/

theorem advance_of_isEmpty (hn : c.isEmpty = true) : c.advance = (c, []) := by
  rcases aim_cases c with ⟨-, -, ha⟩ | ⟨g, hg, -⟩ | ⟨-, g, hg, -⟩
  · simp [advance, ha]
  · simp_all [isEmpty, upAim, StopSet.floors]
  · simp_all [isEmpty, downAim, StopSet.floors]

lemma advance_fst {aim : Int} {d : Direction} (ha : c.aim = some (aim, d)) :
    c.advance.1 =
      let there := { c with floor := Floor.next c.floor aim }
      if there.floor = aim then there.serve aim d else there := by
  simp only [advance, ha]
  split_ifs <;> rfl

/-- A step towards an up-stop, which is gone once the car is there. -/
lemma advance_up (hw : c.WellFormed) {aim : Int} (ha : c.aim = some (aim, .up)) :
    c.advance.1.floor = Floor.next c.floor aim ∧
      (∀ g, c.advance.1.up.has g = true ↔
        c.up.has g = true ∧ ¬(g = aim ∧ Floor.next c.floor aim = aim)) ∧
      ∀ g, c.advance.1.down.has g = true → c.down.has g = true := by
  rw [advance_fst ha]
  dsimp only
  split_ifs with hthere
  · refine ⟨serve_floor _ _ _, fun g => ?_, fun g hg => StopSet.has_of_has_clearCabin hw.down hg⟩
    simp only [serve, StopSet.has_remove hw.up, hthere]
    tauto
  · exact ⟨rfl, fun g => ⟨fun hg => ⟨hg, fun he => hthere he.2⟩, fun hg => hg.1⟩, fun g hg => hg⟩

/-- A step towards a down-stop. -/
lemma advance_down (hw : c.WellFormed) {aim : Int} (ha : c.aim = some (aim, .down)) :
    c.advance.1.floor = Floor.next c.floor aim ∧
      (∀ g, c.advance.1.down.has g = true ↔
        c.down.has g = true ∧ ¬(g = aim ∧ Floor.next c.floor aim = aim)) ∧
      ∀ g, c.advance.1.up.has g = true → c.up.has g = true := by
  rw [advance_fst ha]
  dsimp only
  split_ifs with hthere
  · refine ⟨serve_floor _ _ _, fun g => ?_, fun g hg => StopSet.has_of_has_clearCabin hw.up hg⟩
    simp only [serve, StopSet.has_remove hw.down, hthere]
    tauto
  · exact ⟨rfl, fun g => ⟨fun hg => ⟨hg, fun he => hthere he.2⟩, fun hg => hg.1⟩, fun g hg => hg⟩

/-- Between two floors that are near enough a car moves by one floor towards its aim. -/
lemma Within.next_cases (hspan : Floor.Span lo hi) (hw : c.WellFormed) (hb : c.Within lo hi)
    {aim : Int} {d : Direction} (ha : c.aim = some (aim, d)) :
    aim = c.floor ∧ Floor.next c.floor aim = c.floor ∨
      c.floor < aim ∧ Floor.next c.floor aim = c.floor + 1 ∨
      aim < c.floor ∧ Floor.next c.floor aim = c.floor - 1 := by
  refine hspan.next_cases ⟨hb.lower, hb.upper⟩ ?_
  obtain ⟨hset, hstop⟩ := hasStop_of_aim hw ha
  cases d with
  | up => exact hb.up aim hstop
  | down => exact hb.down aim hstop
  | idle => cases hset

theorem advance_within (hspan : Floor.Span lo hi) (hw : c.WellFormed) (hb : c.Within lo hi) :
    c.advance.1.Within lo hi := by
  have hlower := hb.lower
  have hupper := hb.upper
  rcases aim_cases c with ⟨hu, hd, -⟩ | ⟨aim, haim, ha⟩ | ⟨-, aim, haim, ha⟩
  · rw [advance_of_isEmpty (by simp [isEmpty, hu, hd])]
    exact hb
  · obtain ⟨hfloor, hup, hdown⟩ := advance_up hw ha
    have hin := hb.up aim ((StopSet.has_eq_true_iff_mem _ _).mpr (upAim_spec hw haim).1)
    have hnext := hb.next_cases hspan hw ha
    refine ⟨by omega, by omega, fun g hg => hb.up g ((hup g).mp hg).1, fun g hg => ?_⟩
    exact hb.down g (hdown g hg)
  · obtain ⟨hfloor, hdown, hup⟩ := advance_down hw ha
    have hin := hb.down aim ((StopSet.has_eq_true_iff_mem _ _).mpr (downAim_spec hw haim).1)
    have hnext := hb.next_cases hspan hw ha
    refine ⟨by omega, by omega, fun g hg => hb.up g (hup g hg), fun g hg => ?_⟩
    exact hb.down g ((hdown g).mp hg).1

/-- A car that works on its up-stops comes closer to rest with each step. -/
lemma rank_advance_up (hspan : Floor.Span lo hi) (hw : c.WellFormed) (hb : c.Within lo hi)
    {aim : Int} (haim : c.upAim = some aim) (ha : c.aim = some (aim, .up)) :
    c.advance.1.rank lo hi < c.rank lo hi := by
  have hb' := advance_within hspan hw hb
  have hlower := hb.lower
  have hupper := hb.upper
  obtain ⟨hfloor, hup, -⟩ := advance_up hw ha
  obtain ⟨hm, hnearest⟩ := upAim_spec hw haim
  have hm := (StopSet.has_eq_true_iff_mem _ _).mpr hm
  have hnext := hb.next_cases hspan hw ha
  rcases hnearest with ⟨hle, hnear⟩ | ⟨hlt, hhigh⟩
  · -- The next floor is no stop any more: the nearest one is served, or not yet reached.
    have hgone : c.advance.1.up.has c.advance.1.floor = false := by
      refine Bool.eq_false_iff.mpr fun hg => ?_
      obtain ⟨hg, hn⟩ := (hup _).mp hg
      have := hnear _ ((StopSet.has_eq_true_iff_mem _ _).mp hg) (by omega)
      omega
    have hbound := rank_le hb'
    rw [hgone, hfloor] at hbound
    rw [rank_climbing hm hle]
    rcases hnext with ⟨rfl, hx⟩ | hx | hx
    · rw [hm]
      simp at hbound ⊢
      omega
    · simp at hbound
      omega
    · omega
  · have hpassed : ∀ g, c.up.has g = true → g ≤ aim := fun g hg =>
      hhigh g ((StopSet.has_eq_true_iff_mem _ _).mp hg)
    have hbound := rank_le_of_passed hb' fun g hg => by
      obtain ⟨hg, hn⟩ := (hup g).mp hg
      have := hpassed g hg
      omega
    rw [rank_returning hm fun g hg => by have := hpassed g hg; omega]
    omega

/-- A car that works on its down-stops comes closer to rest with each step. -/
lemma rank_advance_down (hspan : Floor.Span lo hi) (hw : c.WellFormed) (hb : c.Within lo hi)
    (hu : c.up = []) {aim : Int} (haim : c.downAim = some aim) (ha : c.aim = some (aim, .down)) :
    c.advance.1.rank lo hi < c.rank lo hi := by
  have hb' := advance_within hspan hw hb
  have hlower := hb.lower
  have hupper := hb.upper
  obtain ⟨hfloor, hdown, hup⟩ := advance_down hw ha
  obtain ⟨hm, hnearest⟩ := downAim_spec hw haim
  have hm := (StopSet.has_eq_true_iff_mem _ _).mpr hm
  have hnext := hb.next_cases hspan hw ha
  have hu' : c.advance.1.up = [] := by
    refine (StopSet.eq_nil_iff_has _).mpr fun g => Bool.eq_false_iff.mpr fun hg => ?_
    have hqueued := hup g hg
    simp [hu, StopSet.has] at hqueued
  rcases hnearest with ⟨hle, hnear⟩ | ⟨hlt, hlow⟩
  · have hgone : c.advance.1.down.has c.advance.1.floor = false := by
      refine Bool.eq_false_iff.mpr fun hg => ?_
      obtain ⟨hg, hn⟩ := (hdown _).mp hg
      have := hnear _ ((StopSet.has_eq_true_iff_mem _ _).mp hg) (by omega)
      omega
    have hbound := rank_le_of_nil hb' hu'
    rw [hgone, hfloor] at hbound
    rw [rank_descending hu hm hle]
    rcases hnext with ⟨rfl, hx⟩ | hx | hx
    · rw [hm]
      simp at hbound ⊢
      omega
    · omega
    · simp at hbound
      omega
  · have hpassed : ∀ g, c.down.has g = true → aim ≤ g := fun g hg =>
      hlow g ((StopSet.has_eq_true_iff_mem _ _).mp hg)
    have hbound := rank_le_of_nil_passed hb' hu' fun g hg => by
      obtain ⟨hg, hn⟩ := (hdown g).mp hg
      have := hpassed g hg
      omega
    rw [rank_recovering hu hm fun g hg => by have := hpassed g hg; omega]
    omega

/-- Each step takes a car with stops closer to rest. -/
theorem rank_advance (hspan : Floor.Span lo hi) (hw : c.WellFormed) (hb : c.Within lo hi)
    (hn : c.isEmpty = false) : c.advance.1.rank lo hi < c.rank lo hi := by
  rcases aim_cases c with ⟨hu, hd, -⟩ | ⟨aim, haim, ha⟩ | ⟨hu, aim, haim, ha⟩
  · simp [isEmpty, hu, hd] at hn
  · exact rank_advance_up hspan hw hb haim ha
  · exact rank_advance_down hspan hw hb hu haim ha

/-! ### Measures -/

/-- A measure of how far cars are from rest, for the cars that it covers. -/
structure Measure where
  Covers : Car → Prop
  rank : Car → Int
  advance : ∀ {c}, c.WellFormed → Covers c → c.isEmpty = false →
    Covers c.advance.1 ∧ rank c.advance.1 < rank c
  fewer : ∀ {c c'}, c'.Fewer c → c'.WellFormed → c.WellFormed → Covers c →
    Covers c' ∧ rank c' ≤ rank c
  pos : ∀ {c}, c.WellFormed → Covers c → c.isEmpty = false → 0 < rank c
  resting : ∀ {c}, c.isEmpty = true → rank c = 0

/-- The ranks of cars between two floors that are near enough to each other. -/
def Measure.between (hspan : Floor.Span lo hi) : Measure where
  Covers := Within lo hi
  rank := Car.rank lo hi
  advance hw hb hn := ⟨advance_within hspan hw hb, rank_advance hspan hw hb hn⟩
  fewer h _ _ hb := ⟨h.within hb, h.rank_le hb⟩
  pos _ hb hn := rank_pos hb hn
  resting hn := by
    obtain ⟨hu, hd⟩ : _ ∧ _ := by simpa [isEmpty] using hn
    exact rank_resting hu hd

end ElevatorBank.Car

namespace ElevatorBank.Fleet

/-- The floors between which a fleet has to work. -/
theorem within_span {f : Fleet} {c : Car} (hm : c ∈ f) : c.Within f.span.1 f.span.2 := by
  have hspan : ∀ floor, floor ∈ c.floor :: (c.up.floors ++ c.down.floors) →
      f.span.1 ≤ floor ∧ floor ≤ f.span.2 := by
    intro floor hfloor
    have hfloors : floor ∈ f.flatMap fun c => c.floor :: (c.up.floors ++ c.down.floors) :=
      List.mem_flatMap.mpr ⟨c, hm, hfloor⟩
    have hne := List.ne_nil_of_mem hfloors
    unfold span
    dsimp only
    rw [List.foldl_min_eq_min hne, List.foldl_max_eq_max hne]
    exact ⟨Int.le_trans (Int.min_le_right _ _) (List.min_le_of_mem hfloors),
      Int.le_trans (List.le_max_of_mem hfloors) (Int.le_max_right _ _)⟩
  refine ⟨(hspan _ (by simp)).1, (hspan _ (by simp)).2, fun g hg => ?_, fun g hg => ?_⟩
  · exact hspan g (by simp [(StopSet.has_eq_true_iff_mem _ _).mp hg])
  · exact hspan g (by simp [(StopSet.has_eq_true_iff_mem _ _).mp hg])

end ElevatorBank.Fleet
