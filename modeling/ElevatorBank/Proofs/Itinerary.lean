import ElevatorBank.Proofs.Orderly
import ElevatorBank.Proofs.Rank
import Mathlib.Data.List.Sort

/-!
# Itineraries

Where a car goes that is left alone. It climbs through its up-stops and turns back for those
it has passed; from where that ends it descends through its down-stops and turns back for
those above. The first stop of the itinerary is the aim of the car (`itinerary_of_aim`), and
within a span of floors moving towards it leaves the itinerary as it is (`aim_moved`), so the steps
of a car serve just these stops and walk just this way (`itinerary_advance`, `itinerary_ride`).
-/
namespace ElevatorBank

/-! ### Sweeps -/

/-- The floors of a sweep in the order of service: those ahead, and on the way back the others. -/
def sweep (ahead : Int → Bool) (floors : List Int) : List Int :=
  floors.filter ahead ++ (floors.filter (!ahead ·)).reverse

section
variable {R : Int → Int → Prop} [Std.Asymm R] {floors others : List Int} {ahead beyond : Int → Bool}
  {aim : Int} (hsorted : floors.Pairwise R) (hothers : others.Pairwise R)
  (hmem : ∀ g, g ∈ others ↔ g ≠ aim ∧ g ∈ floors) (hm : aim ∈ floors)
  (hbeyond : ∀ g, beyond g = true ↔ g = aim ∨ R aim g)
include hsorted hothers hmem hm hbeyond

/-- A floor splits the others into those before it and those beyond it. -/
lemma split_at_aim : ∃ before after, floors = before ++ aim :: after ∧ others = before ++ after ∧
    (∀ g ∈ before, beyond g = false) ∧ (∀ g ∈ after, R aim g ∧ beyond g = true) := by
  obtain ⟨before, after, rfl⟩ := List.append_of_mem hm
  obtain ⟨hbefore, hafter, hacross⟩ := List.pairwise_append.mp hsorted
  obtain ⟨haim, hafter⟩ := List.pairwise_cons.mp hafter
  have hfirst : ∀ g ∈ before, R g aim := fun g hg => hacross g hg aim List.mem_cons_self
  refine ⟨before, after, rfl, ?_, fun g hg => ?_, fun g hg => ?_⟩
  · refine hothers.eq_of_mem_iff (List.pairwise_append.mpr ⟨hbefore, hafter, ?_⟩) fun g => ?_
    · exact fun g hg other hother => hacross g hg other (List.mem_cons_of_mem _ hother)
    · rw [hmem]
      simp only [List.mem_append, List.mem_cons]
      constructor
      · rintro ⟨hne, hg | rfl | hg⟩
        · exact .inl hg
        · exact absurd rfl hne
        · exact .inr hg
      · rintro (hg | hg)
        · refine ⟨?_, .inl hg⟩
          rintro rfl
          exact Std.Irrefl.irrefl g (hfirst g hg)
        · refine ⟨?_, .inr (.inr hg)⟩
          rintro rfl
          exact Std.Irrefl.irrefl g (haim g hg)
  · refine Bool.eq_false_iff.mpr fun hb => ?_
    obtain rfl | hb := (hbeyond g).mp hb
    · exact Std.Irrefl.irrefl g (hfirst g hg)
    · exact Std.Asymm.asymm _ _ hb (hfirst g hg)
  · exact ⟨haim g hg, (hbeyond g).mpr (.inr (haim g hg))⟩

/-- A sweep that has just the aim and what lies beyond it ahead begins with the aim and goes
on from there. -/
lemma sweep_of_nearest (hnear : ∀ g ∈ floors, ahead g = beyond g) :
    sweep ahead floors = aim :: sweep beyond others := by
  obtain ⟨before, after, rfl, rfl, hbefore, hafter⟩ :=
    split_at_aim hsorted hothers hmem hm hbeyond
  have haim : beyond aim = true := (hbeyond aim).mpr (.inl rfl)
  have hback : ∀ g ∈ before ++ aim :: after, (!ahead g) = !beyond g := fun g hg => by
    rw [hnear g hg]
  have hrest : after.filter beyond = after := List.filter_eq_self.mpr fun g hg => (hafter g hg).2
  have hpassed : after.filter (!beyond ·) = [] :=
    List.filter_eq_nil_iff.mpr fun g hg => by simp [(hafter g hg).2]
  have hnone : before.filter beyond = [] :=
    List.filter_eq_nil_iff.mpr fun g hg => by simp [hbefore g hg]
  unfold sweep
  rw [List.filter_congr hnear, List.filter_congr hback]
  simp only [List.filter_append, List.filter_cons, haim, hrest, hpassed, hnone]
  simp

/-- A sweep that has nothing ahead begins with the floor farthest back. -/
lemma sweep_of_farthest (hnone : ∀ g ∈ floors, ahead g = false)
    (hfar : ∀ g ∈ floors, ¬R aim g) : sweep ahead floors = aim :: sweep beyond others := by
  obtain ⟨before, after, rfl, rfl, hbefore, hafter⟩ :=
    split_at_aim hsorted hothers hmem hm hbeyond
  obtain rfl : after = [] := List.eq_nil_iff_forall_not_mem.mpr fun g hg =>
    hfar g (by simp [hg]) (hafter g hg).1
  have hahead : (before ++ [aim]).filter ahead = [] :=
    List.filter_eq_nil_iff.mpr fun g hg => by simp [hnone g hg]
  have hback : (before ++ [aim]).filter (!ahead ·) = before ++ [aim] :=
    List.filter_eq_self.mpr fun g hg => by simp [hnone g hg]
  have hstart : before.filter beyond = [] :=
    List.filter_eq_nil_iff.mpr fun g hg => by simp [hbefore g hg]
  have hrest : before.filter (!beyond ·) = before :=
    List.filter_eq_self.mpr fun g hg => by simp [hbefore g hg]
  unfold sweep
  rw [hahead, hback, List.append_nil, hstart, hrest]
  simp

end

namespace Car

/-- The up-stops in the order of service. -/
def upTour (c : Car) : List Int := sweep (c.floor ≤ ·) c.up.floors

/-- Where the car has served the last of its up-stops. -/
def turningFloor (c : Car) : Int := c.upTour.getLast?.getD c.floor

/-- The down-stops that are left by then, from the highest down. At an up-stop a passenger
bound for its floor gets off, and a down-stop there that nobody else has asked for is gone. -/
def downLeft (c : Car) : List Int :=
  c.down.floors.reverse.filter fun floor => !(c.up.has floor && !c.hasHallStop floor .down)

/-- The down-stops in the order of service. -/
def downTour (c : Car) : List Int := sweep (· ≤ c.turningFloor) c.downLeft

/-- The stops of a car in the order in which it serves them, each with its set. -/
def itinerary (c : Car) : List (Int × Direction) :=
  c.upTour.map (·, .up) ++ c.downTour.map (·, .down)

/-- The distance from a floor to the first stop and on from each stop to the next. -/
def distance : Int → List (Int × Direction) → Nat
  | _, [] => 0
  | floor, stop :: rest => (stop.1 - floor).natAbs + distance stop.1 rest

/-- How a car tells of a stop that it has served. -/
def stopServed (id : CarId) (stop : Int × Direction) : Event := .stopServed id stop.1 stop.2

/-- A car after so many steps, and the events of these. -/
def ride : Nat → Car → Car × List Event
  | 0, c => (c, [])
  | n + 1, c => ((ride n c.advance.1).1, c.advance.2 ++ (ride n c.advance.1).2)

end Car

namespace Event

/-- The events that tell of stops served. -/
def served (events : List Event) : List Event := events.filter (·.kind = .stopServed)

/-- How many moves by one floor the events tell of. -/
def moves (events : List Event) : Nat := events.countP (·.kind = .carMoved)

@[simp] lemma served_append (before after : List Event) :
    served (before ++ after) = served before ++ served after := List.filter_append ..

@[simp] lemma moves_append (before after : List Event) :
    moves (before ++ after) = moves before + moves after := List.countP_append

end Event

namespace StopSet

variable {s : StopSet}

lemma mem_floors_remove (h : s.WellFormed) {floor g : Int} :
    g ∈ (s.remove floor).floors ↔ g ≠ floor ∧ g ∈ s.floors := by
  rw [← has_eq_true_iff_mem, has_remove h, has_eq_true_iff_mem]

/-- A floor that a landing has asked for too stays queued. -/
lemma mem_floors_clearCabin (h : s.WellFormed) {floor g : Int} :
    g ∈ (s.clearCabin floor).floors ↔
      g ∈ s.floors ∧ (g = floor → (s.requests floor).hall = true) := by
  rw [← has_eq_true_iff_mem, ← has_eq_true_iff_mem, clearCabin, has_put h]
  split_ifs with hg
  · rw [hg, has_iff_any h]
    cases hr : (s.requests floor).hall <;> simp [Requesters.any, hr]
  · simp [hg]

end StopSet

namespace Car

variable {c : Car} {aim lo hi : Int} {set : Direction}

/-! ### The first stop -/

/-- The first up-stop served is the one the car aims at. -/
lemma upTour_of_upAim (hw : c.WellFormed) (h : c.upAim = some aim) :
    c.upTour = aim :: ({ c with floor := aim }.serve aim .up).upTour := by
  have hsorted := StopSet.floors_pairwise hw.up
  have hothers : (c.up.remove aim).floors.Pairwise (· < ·) :=
    StopSet.floors_pairwise (hw.up.put aim .nobody)
  have hmem : ∀ g, g ∈ (c.up.remove aim).floors ↔ g ≠ aim ∧ g ∈ c.up.floors :=
    fun _ => StopSet.mem_floors_remove hw.up
  have hbeyond : ∀ g, decide (aim ≤ g) = true ↔ g = aim ∨ aim < g := by
    intro g
    rw [decide_eq_true_eq]
    omega
  show c.upTour = aim :: sweep (aim ≤ ·) (c.up.remove aim).floors
  obtain ⟨hm, ⟨hle, hnear⟩ | ⟨hlt, hfar⟩⟩ := upAim_spec hw h
  · refine sweep_of_nearest hsorted hothers hmem hm hbeyond fun g hg => ?_
    have := hnear g hg
    rw [decide_eq_decide]
    omega
  · refine sweep_of_farthest hsorted hothers hmem hm hbeyond (fun g hg => ?_) fun g hg => ?_
    · have := hfar g hg
      rw [decide_eq_false_iff_not]
      omega
    · have := hfar g hg
      omega

/-- Serving an up-stop makes no difference to where the car turns round. -/
lemma turningFloor_of_upAim (hw : c.WellFormed) (h : c.upAim = some aim) :
    c.turningFloor = ({ c with floor := aim }.serve aim .up).turningFloor := by
  unfold turningFloor
  rw [upTour_of_upAim hw h, List.getLast?_cons, Option.getD_some, serve_floor]

/-- The passengers who get off at an up-stop have been left out of the down-stops before. -/
lemma downLeft_of_upAim (hw : c.WellFormed) (h : c.upAim = some aim) :
    c.downLeft = ({ c with floor := aim }.serve aim .up).downLeft := by
  have hcleared : (c.down.clearCabin aim).WellFormed := hw.down.put _ _
  have hhall : ∀ g, ((c.down.clearCabin aim).requests g).hall = (c.down.requests g).hall := by
    intro g
    rw [StopSet.requests_clearCabin hw.down]
    split_ifs with hg
    · rw [hg]
    · rfl
  have hup : c.up.has aim = true := (StopSet.has_eq_true_iff_mem _ _).mpr (upAim_spec hw h).1
  have hsorted := List.pairwise_reverse.mpr (StopSet.floors_pairwise hw.down)
  have hsorted' := List.pairwise_reverse.mpr (StopSet.floors_pairwise hcleared)
  refine (hsorted.filter _).eq_of_mem_iff (hsorted'.filter _) fun g => ?_
  have hleft : (c.up.remove aim).has g = true ↔ g ≠ aim ∧ c.up.has g = true :=
    StopSet.has_remove hw.up aim g
  show g ∈ c.downLeft ↔ g ∈ (c.down.clearCabin aim).floors.reverse.filter fun floor =>
    !((c.up.remove aim).has floor && !((c.down.clearCabin aim).requests floor).hall)
  simp only [downLeft, hasHallStop, List.mem_filter, List.mem_reverse, Bool.not_eq_true',
    Bool.and_eq_false_imp, Bool.not_eq_false', hleft, hhall, StopSet.mem_floors_clearCabin hw.down]
  by_cases hg : g = aim
  · subst hg
    simp [hup]
  · simp [hg]

/-- The first down-stop served is the one the car aims at, once the up-stops are done. -/
lemma downTour_of_downAim (hw : c.WellFormed) (hup : c.up = []) (h : c.downAim = some aim) :
    c.downTour = aim :: ({ c with floor := aim }.serve aim .down).downTour := by
  have hall : ∀ c : Car, c.up = [] → c.downTour = sweep (· ≤ c.floor) c.down.floors.reverse := by
    intro c hup
    simp [downTour, turningFloor, downLeft, upTour, sweep, hup, StopSet.floors, StopSet.has]
  have hsorted := List.pairwise_reverse.mpr (StopSet.floors_pairwise hw.down)
  have hothers := List.pairwise_reverse.mpr
    (StopSet.floors_pairwise (hw.down.put aim .nobody))
  have hmem : ∀ g, g ∈ (c.down.remove aim).floors.reverse ↔
      g ≠ aim ∧ g ∈ c.down.floors.reverse := fun g => by
    rw [List.mem_reverse, List.mem_reverse, StopSet.mem_floors_remove hw.down]
  have hbeyond : ∀ g, decide (g ≤ aim) = true ↔ g = aim ∨ g < aim := by
    intro g
    rw [decide_eq_true_eq]
    omega
  have hserved : ({ c with floor := aim }.serve aim .down).downTour =
      sweep (· ≤ aim) (c.down.remove aim).floors.reverse :=
    hall _ (by show c.up.clearCabin aim = []; rw [hup]; rfl)
  rw [hall c hup, hserved]
  obtain ⟨hm, ⟨hle, hnear⟩ | ⟨hlt, hfar⟩⟩ := downAim_spec hw h
  · refine sweep_of_nearest hsorted hothers hmem (List.mem_reverse.mpr hm) hbeyond fun g hg => ?_
    have := hnear g (List.mem_reverse.mp hg)
    rw [decide_eq_decide]
    omega
  · refine sweep_of_farthest hsorted hothers hmem (List.mem_reverse.mpr hm) hbeyond
      (fun g hg => ?_) fun g hg => ?_
    · have := hfar g (List.mem_reverse.mp hg)
      rw [decide_eq_false_iff_not]
      omega
    · have := hfar g (List.mem_reverse.mp hg)
      omega

lemma itinerary_of_isEmpty (hn : c.isEmpty = true) : c.itinerary = [] := by
  have hempty : c.up = [] ∧ c.down = [] := by simpa [isEmpty] using hn
  simp [itinerary, upTour, downTour, downLeft, sweep, hempty, StopSet.floors]

/-- The itinerary begins with the aim of the car, and goes on as from there. -/
theorem itinerary_of_aim (hw : c.WellFormed) (ha : c.aim = some (aim, set)) :
    c.itinerary = (aim, set) :: ({ c with floor := aim }.serve aim set).itinerary := by
  rcases aim_cases c with ⟨-, -, hn⟩ | ⟨floor, hup, hn⟩ | ⟨hup, floor, hdown, hn⟩
  · rw [ha] at hn
    cases hn
  · obtain ⟨rfl, rfl⟩ : aim = floor ∧ set = .up := by simpa [ha] using hn
    simp only [itinerary, downTour, turningFloor_of_upAim hw hup, downLeft_of_upAim hw hup]
    rw [upTour_of_upAim hw hup]
    rfl
  · obtain ⟨rfl, rfl⟩ : aim = floor ∧ set = .down := by simpa [ha] using hn
    have hnone : ({ c with floor := aim }.serve aim .down).upTour = [] := by
      have hcleared : StopSet.clearCabin [] aim = [] := rfl
      simp [upTour, sweep, serve, hup, hcleared, StopSet.floors]
    have hstart : c.upTour = [] := by simp [upTour, sweep, hup, StopSet.floors]
    simp only [itinerary, hnone, hstart, downTour_of_downAim hw hup hdown]
    rfl

/-- A car that has moved towards its aim still aims there. -/
theorem aim_moved (hspan : Floor.Span lo hi) (hw : c.WellFormed) (hb : c.Within lo hi)
    (ha : c.aim = some (aim, set)) :
    ({ c with floor := Floor.next c.floor aim } : Car).aim = some (aim, set) := by
  have hmoved : ({ c with floor := Floor.next c.floor aim } : Car).WellFormed :=
    ⟨hw.up, hw.down⟩
  have hnext := hb.next_cases hspan hw ha
  generalize Floor.next c.floor aim = next at hmoved hnext ⊢
  have hafter := aim_cases { c with floor := next }
  rcases aim_cases c with ⟨-, -, hn⟩ | ⟨floor, hup, hn⟩ | ⟨hup, floor, hdown, hn⟩
  · rw [ha] at hn
    cases hn
  · obtain ⟨rfl, rfl⟩ : aim = floor ∧ set = .up := by simpa [ha] using hn
    obtain ⟨hm, hnear⟩ := upAim_spec hw hup
    have hne : c.up ≠ [] := fun he => by simp [he, StopSet.floors] at hm
    rcases hafter with ⟨he, -⟩ | ⟨other, hother, hsame⟩ | ⟨he, -⟩
    · exact absurd he hne
    · -- Both floors are up-stops, so from where it is each aim is as near as the other.
      obtain ⟨hm', hnear'⟩ := upAim_spec hmoved hother
      have hbefore := hnear.imp (And.imp_right (· other hm')) (And.imp_right (· other hm'))
      have hthere := hnear'.imp (And.imp_right (· aim hm)) (And.imp_right (· aim hm))
      obtain rfl : other = aim := by
        dsimp only at hthere
        omega
      exact hsame
    · exact absurd he hne
  · obtain ⟨rfl, rfl⟩ : aim = floor ∧ set = .down := by simpa [ha] using hn
    obtain ⟨hm, hnear⟩ := downAim_spec hw hdown
    have hne : c.down ≠ [] := fun he => by simp [he, StopSet.floors] at hm
    rcases hafter with ⟨-, he, -⟩ | ⟨other, hother, -⟩ | ⟨-, other, hother, hsame⟩
    · exact absurd he hne
    · have hm' := (upAim_spec hmoved hother).1
      simp [hup, StopSet.floors] at hm'
    · obtain ⟨hm', hnear'⟩ := downAim_spec hmoved hother
      have hbefore := hnear.imp (And.imp_right (· other hm')) (And.imp_right (· other hm'))
      have hthere := hnear'.imp (And.imp_right (· aim hm)) (And.imp_right (· aim hm))
      obtain rfl : other = aim := by
        dsimp only at hthere
        omega
      exact hsame

/-! ### Steps -/

/-- A move towards the aim leaves the itinerary as it is. -/
lemma itinerary_moved (hspan : Floor.Span lo hi) (hw : c.WellFormed) (hb : c.Within lo hi)
    (ha : c.aim = some (aim, set)) :
    ({ c with floor := Floor.next c.floor aim } : Car).itinerary = c.itinerary := by
  have hmoved : ({ c with floor := Floor.next c.floor aim } : Car).WellFormed :=
    ⟨hw.up, hw.down⟩
  rw [itinerary_of_aim hw ha, itinerary_of_aim hmoved (aim_moved hspan hw hb ha)]

/-- What a step serves is the next stop of the itinerary, and what it moves is the next floor
of the way. -/
theorem itinerary_advance (hspan : Floor.Span lo hi) (hw : c.WellFormed) (hb : c.Within lo hi) :
    c.itinerary.map (stopServed c.id) =
        Event.served c.advance.2 ++ c.advance.1.itinerary.map (stopServed c.id) ∧
      distance c.floor c.itinerary =
        Event.moves c.advance.2 + distance c.advance.1.floor c.advance.1.itinerary := by
  rcases step_cases hw with ⟨hup, hdown, -, hadv⟩ | ⟨aim, set, ha, -, -, hstep⟩
  · rw [hadv]
    exact ⟨rfl, (Nat.zero_add _).symm⟩
  · have hfirst := itinerary_of_aim hw ha
    have hnext := hb.next_cases hspan hw ha
    rcases hstep with ⟨rfl, -, hadv⟩ | ⟨floor, rfl, hne, ⟨hthere, -, hadv⟩ | ⟨-, -, hadv⟩⟩
    · rw [hadv, hfirst]
      refine ⟨rfl, ?_⟩
      simp [distance, Event.moves, Event.kind]
    · rw [hadv, hthere, hfirst]
      refine ⟨rfl, ?_⟩
      have hmoves : Event.moves [.carMoved c.id c.floor aim (.between c.floor aim),
        .stopServed c.id aim set] = 1 := rfl
      simp only [distance, serve_floor, hmoves]
      omega
    · rw [hadv, itinerary_moved hspan hw hb ha]
      refine ⟨rfl, ?_⟩
      rw [hfirst]
      generalize Floor.next c.floor aim = floor at hnext ⊢
      have hmoves : Event.moves [.carMoved c.id c.floor floor (.between c.floor floor)] = 1 := rfl
      simp only [distance, hmoves]
      omega

lemma sweep_perm (ahead : Int → Bool) (floors : List Int) :
    (sweep ahead floors).Perm floors :=
  ((List.reverse_perm _).append_left _).trans (List.filter_append_perm ahead floors)

/-- No stop stands in an itinerary twice. -/
lemma itinerary_nodup (hw : c.WellFormed) : c.itinerary.Nodup := by
  have hup : c.upTour.Nodup :=
    (sweep_perm _ _).nodup_iff.mpr (StopSet.floors_pairwise hw.up).nodup
  have hdown : c.downTour.Nodup := (sweep_perm _ _).nodup_iff.mpr
    ((List.nodup_reverse.mpr (StopSet.floors_pairwise hw.down).nodup).filter _)
  have hinjective : ∀ set : Direction, Function.Injective fun floor : Int => (floor, set) :=
    fun _ _ _ h => congrArg Prod.fst h
  refine (hup.map (hinjective _)).append (hdown.map (hinjective _)) ?_
  simp [List.disjoint_left]

/-- So many steps serve the first stops of the itinerary and walk the first part of the way. -/
theorem itinerary_ride (hspan : Floor.Span lo hi) (hw : c.WellFormed) (hb : c.Within lo hi)
    (n : Nat) :
    c.itinerary.map (stopServed c.id) =
        Event.served (c.ride n).2 ++ (c.ride n).1.itinerary.map (stopServed c.id) ∧
      distance c.floor c.itinerary =
        Event.moves (c.ride n).2 + distance (c.ride n).1.floor (c.ride n).1.itinerary := by
  induction n generalizing c with
  | zero => exact ⟨rfl, (Nat.zero_add _).symm⟩
  | succ n ih =>
    obtain ⟨hstops, hway⟩ := itinerary_advance hspan hw hb
    obtain ⟨hstops', hway'⟩ := ih (advance_wellFormed hw) (advance_within hspan hw hb)
    rw [advance_id] at hstops'
    simp only [ride, Event.served_append, Event.moves_append]
    refine ⟨?_, ?_⟩
    · rw [hstops, hstops', List.append_assoc]
    · rw [hway, hway', Nat.add_assoc]

/-- A car with stops has something to tell of every step. -/
lemma advance_tells (hw : c.WellFormed) (hn : ¬c.isEmpty = true) :
    0 < (Event.served c.advance.2).length + Event.moves c.advance.2 := by
  rcases step_cases hw with ⟨hup, hdown, -⟩ | ⟨aim, set, -, -, -, ⟨-, -, hadv⟩ |
    ⟨floor, -, -, ⟨-, -, hadv⟩ | ⟨-, -, hadv⟩⟩⟩
  · exact absurd (by simp [isEmpty, hup, hdown]) hn
  all_goals simp [hadv, Event.served, Event.moves, Event.kind]

/-- A car that is left alone comes to rest. -/
theorem exists_ride_isEmpty (hspan : Floor.Span lo hi) (hw : c.WellFormed)
    (hb : c.Within lo hi) : ∃ n, (c.ride n).1.isEmpty = true := by
  -- The stops and the floors still ahead become fewer with every step.
  induction hk : c.itinerary.length + distance c.floor c.itinerary using Nat.strong_induction_on
    generalizing c with
  | _ k ih =>
    by_cases hn : c.isEmpty = true
    · exact ⟨0, hn⟩
    · obtain ⟨hstops, hway⟩ := itinerary_advance hspan hw hb
      have hlength := congrArg List.length hstops
      have htells := advance_tells hw hn
      simp only [List.length_append, List.length_map] at hlength
      obtain ⟨n, hrest⟩ := ih _ (by omega) (advance_wellFormed hw) (advance_within hspan hw hb) rfl
      exact ⟨n + 1, hrest⟩

end Car
end ElevatorBank
