import ElevatorBank.Proofs.Car
import Mathlib.Data.Finset.Card
import Mathlib.Data.List.Basic
import Mathlib.Tactic.Tauto

/-!
# Passengers' stops

What a car at rest holds for the passengers after any presses of buttons, once the landings have
taken back theirs. Every floor a passenger asked for is kept and no other, but not always once:
a passenger may have been queued on the way down before a landing put the floor on the way up,
and the next passenger bound for it joins the landing's stop. `HeldTwice` says from the presses
at a floor alone whether that happens.
-/
namespace ElevatorBank.Car

/-- The buttons pressed for one floor, in their order. -/
def pressedAt (floor : Int) (ts : List Target) : List Direction :=
  (ts.filter (·.floor = floor)).map (·.direction)

/-- Whether the first passenger bound for a floor is queued on the way down: no landing wanted
up before, and the floor lies below the car or a landing wanted down. -/
def FirstDown (start floor : Int) (ds : List Direction) : Prop :=
  ds.find? (· ≠ .down) = some .idle ∧ (floor < start ∨ ds.head? = some .down)

/-- Whether passengers bound for a floor sit in both sets: the first one is queued on the way
down, and one came after a landing that wanted up. -/
def HeldTwice (start floor : Int) (ds : List Direction) : Prop :=
  FirstDown start floor ds ∧ [.up, .idle].Sublist ds

instance (start floor : Int) (ds : List Direction) : Decidable (FirstDown start floor ds) :=
  inferInstanceAs (Decidable (_ ∧ _))

instance (start floor : Int) (ds : List Direction) : Decidable (HeldTwice start floor ds) :=
  inferInstanceAs (Decidable (_ ∧ _))

variable {c : Car} {start floor : Int} {ds : List Direction}

lemma find_ne_down_eq_none_iff :
    ds.find? (· ≠ .down) = none ↔ .up ∉ ds ∧ .idle ∉ ds := by
  rw [List.find?_eq_none]
  constructor
  · intro h
    exact ⟨fun hm => by simpa using h _ hm, fun hm => by simpa using h _ hm⟩
  · rintro ⟨hup, hidle⟩ d hm
    cases d <;> simp_all

lemma FirstDown.mem (h : FirstDown start floor ds) : .idle ∈ ds := List.mem_of_find?_eq_some h.1

lemma firstDown_concat (start floor : Int) (ds : List Direction) (d : Direction) :
    FirstDown start floor (ds ++ [d]) ↔ FirstDown start floor ds ∨
      d = .idle ∧ .up ∉ ds ∧ .idle ∉ ds ∧ (floor < start ∨ .down ∈ ds) := by
  unfold FirstDown
  rw [List.find?_append, List.head?_append]
  cases hfind : ds.find? (· ≠ .down) with
  | none =>
    obtain ⟨hup, hidle⟩ := find_ne_down_eq_none_iff.mp hfind
    cases ds with
    | nil => cases d <;> simp
    | cons first rest => cases first <;> cases d <;> simp_all
  | some e =>
    have hne : ¬(.up ∉ ds ∧ .idle ∉ ds) := fun h => by
      rw [find_ne_down_eq_none_iff.mpr h] at hfind
      cases hfind
    cases ds with
    | nil => cases hfind
    | cons first rest =>
      simp only [Option.some_or, List.head?_cons]
      tauto

lemma up_idle_sublist_concat (ds : List Direction) (d : Direction) :
    [.up, .idle].Sublist (ds ++ [d]) ↔ [.up, .idle].Sublist ds ∨ d = .idle ∧ .up ∈ ds := by
  constructor
  · intro h
    obtain ⟨first, last, heq, hfirst, hlast⟩ := List.sublist_append_iff.mp h
    cases hlast with
    | cons _ hnil =>
      obtain rfl := List.sublist_nil.mp hnil
      rw [List.append_nil] at heq
      exact .inl (heq ▸ hfirst)
    | cons_cons _ hnil =>
      obtain rfl := List.sublist_nil.mp hnil
      have heq : [Direction.up] ++ [.idle] = first ++ [d] := heq
      obtain ⟨rfl, hd⟩ := List.append_inj' heq rfl
      exact .inr ⟨(List.singleton_inj.mp hd).symm, List.singleton_sublist.mp hfirst⟩
  · rintro (h | ⟨rfl, h⟩)
    · exact h.trans (List.sublist_append_left _ _)
    · exact (List.singleton_sublist.mpr h).append (List.Sublist.refl [Direction.idle])

/-! ### What the presses at a floor leave queued -/

/-- The requests a car holds for one floor, in terms of the buttons pressed for it. -/
structure Holds (c : Car) (floor : Int) (ds : List Direction) : Prop where
  upHall : (c.up.requests floor).hall = true ↔ .up ∈ ds
  downHall : (c.down.requests floor).hall = true ↔ .down ∈ ds
  upCabin : (c.up.requests floor).cabin = true ↔
    .idle ∈ ds ∧ (FirstDown c.floor floor ds → [.up, .idle].Sublist ds)
  downCabin : (c.down.requests floor).cabin = true ↔ FirstDown c.floor floor ds

lemma holds_start (id : CarId) (start floor : Int) : (Car.start id start).Holds floor [] := by
  constructor <;> simp [Car.start, FirstDown, Requesters.nobody]

/-- Where a stop is on the way up, nobody who comes now is queued on the way down. -/
lemma Holds.firstDown_of_up (h : c.Holds floor ds) (hup : (c.up.requests floor).any = true) :
    FirstDown c.floor floor (ds ++ [.idle]) ↔ FirstDown c.floor floor ds := by
  rw [firstDown_concat]
  apply or_iff_left
  rintro ⟨-, hnup, hnidle, -⟩
  obtain hhall | hcabin := Bool.or_eq_true_iff.mp hup
  · exact hnup (h.upHall.mp hhall)
  · exact hnidle (h.upCabin.mp hcabin).1

lemma Holds.join_up (hw : c.WellFormed) (h : c.Holds floor ds)
    (hup : (c.up.requests floor).any = true) :
    ({ c with up := c.up.markCabin floor } : Car).Holds floor (ds ++ [.idle]) := by
  have hsame := h.firstDown_of_up hup
  have hjoined : FirstDown c.floor floor ds → [.up, .idle].Sublist (ds ++ [.idle]) := by
    intro hf
    rw [up_idle_sublist_concat]
    obtain hhall | hcabin := Bool.or_eq_true_iff.mp hup
    · exact .inr ⟨rfl, h.upHall.mp hhall⟩
    · exact .inl ((h.upCabin.mp hcabin).2 hf)
  constructor
  · simp [hw.up, h.upHall]
  · simp [h.downHall]
  · simpa [hw.up, hsame] using hjoined
  · simp [h.downCabin, hsame]

section
variable (hup : (c.up.requests floor).any = false)
include hup

lemma Holds.up_notMem (h : c.Holds floor ds) : .up ∉ ds := by
  rw [← h.upHall, (Bool.or_eq_false_iff.mp hup).1]
  exact Bool.false_ne_true

lemma Holds.firstDown_of_idle (h : c.Holds floor ds) (hidle : .idle ∈ ds) :
    FirstDown c.floor floor ds := by
  by_contra hn
  have hqueued := h.upCabin.mpr ⟨hidle, fun hf => absurd hf hn⟩
  rw [(Bool.or_eq_false_iff.mp hup).2] at hqueued
  cases hqueued

/-- Where no stop is on the way up, a passenger is queued on the way down if something is queued
there already or the floor lies below. -/
lemma Holds.firstDown_iff (h : c.Holds floor ds) : FirstDown c.floor floor (ds ++ [.idle]) ↔
    (c.down.requests floor).any = true ∨ floor < c.floor := by
  have hnup := h.up_notMem hup
  rw [firstDown_concat, Requesters.any, Bool.or_eq_true, h.downHall, h.downCabin]
  constructor
  · rintro (hf | ⟨-, -, -, hbelow | hdown⟩)
    · exact .inl (.inr hf)
    · exact .inr hbelow
    · exact .inl (.inl hdown)
  · intro hdown
    by_cases hidle : .idle ∈ ds
    · exact .inl (h.firstDown_of_idle hup hidle)
    · obtain (hdown | hf) | hbelow := hdown
      · exact .inr ⟨rfl, hnup, hidle, .inr hdown⟩
      · exact .inl hf
      · exact .inr ⟨rfl, hnup, hidle, .inl hbelow⟩

lemma Holds.queue_down (hw : c.WellFormed) (h : c.Holds floor ds)
    (hf : FirstDown c.floor floor (ds ++ [.idle])) :
    ({ c with down := c.down.markCabin floor } : Car).Holds floor (ds ++ [.idle]) := by
  have hnone : ¬[.up, .idle].Sublist (ds ++ [.idle]) := by
    intro hs
    have hmem : .up ∈ ds ++ [.idle] := hs.mem List.mem_cons_self
    simp [h.up_notMem hup] at hmem
  constructor
  · simp [h.upHall]
  · simp [hw.down, h.downHall]
  · simp [(Bool.or_eq_false_iff.mp hup).2, hf, hnone]
  · simp [hw.down, hf]

lemma Holds.queue_up (hw : c.WellFormed) (h : c.Holds floor ds)
    (hf : ¬FirstDown c.floor floor (ds ++ [.idle])) :
    ({ c with up := c.up.markCabin floor } : Car).Holds floor (ds ++ [.idle]) := by
  have hdown : (c.down.requests floor).any = false :=
    Bool.eq_false_iff.mpr fun hany => hf ((h.firstDown_iff hup).mpr (.inl hany))
  constructor
  · simp [hw.up, h.upHall]
  · simp [h.downHall]
  · simp [hw.up, hf]
  · simp [(Bool.or_eq_false_iff.mp hdown).2, hf]

end

lemma Holds.enqueueCabin (hw : c.WellFormed) (h : c.Holds floor ds) :
    (c.enqueueCabin floor).Holds floor (ds ++ [.idle]) := by
  unfold Car.enqueueCabin
  rw [StopSet.has_iff_any hw.up, StopSet.has_iff_any hw.down]
  split_ifs with hup hdown hle
  · exact h.join_up hw hup
  · have hup := Bool.eq_false_iff.mpr hup
    exact h.queue_down hup hw ((h.firstDown_iff hup).mpr (.inl hdown))
  · have hup := Bool.eq_false_iff.mpr hup
    refine h.queue_up hup hw fun hf => ?_
    exact ((h.firstDown_iff hup).mp hf).elim hdown (not_lt.mpr hle)
  · have hup := Bool.eq_false_iff.mpr hup
    exact h.queue_down hup hw ((h.firstDown_iff hup).mpr (.inr (not_le.mp hle)))

lemma Holds.enqueue (hw : c.WellFormed) (h : c.Holds floor ds) (d : Direction) :
    (c.enqueue ⟨floor, d⟩).Holds floor (ds ++ [d]) := by
  cases d with
  | up =>
    constructor <;> simp [Car.enqueue, hw.up, h.downHall, h.upCabin, h.downCabin,
      firstDown_concat, up_idle_sublist_concat]
  | down =>
    constructor <;> simp [Car.enqueue, hw.down, h.upHall, h.upCabin, h.downCabin,
      firstDown_concat, up_idle_sublist_concat]
  | idle => exact h.enqueueCabin hw

/-- What a car at rest holds for a floor after any presses. -/
theorem holds_enqueued (id : CarId) (start : Int) (ts : List Target) :
    (ts.foldl Car.enqueue (.start id start)).WellFormed ∧
      (ts.foldl Car.enqueue (.start id start)).floor = start ∧
      ∀ floor, (ts.foldl Car.enqueue (.start id start)).Holds floor (pressedAt floor ts) := by
  induction ts using List.reverseRecOn with
  | nil => exact ⟨start_wellFormed id start, rfl, holds_start id start⟩
  | append_singleton ts t ih =>
    obtain ⟨hw, hfloor, hholds⟩ := ih
    rw [List.foldl_append, List.foldl_cons, List.foldl_nil]
    refine ⟨hw.enqueue t, by rw [enqueue_floor, hfloor], fun floor => ?_⟩
    unfold pressedAt
    rw [List.filter_append, List.map_append]
    by_cases ht : t.floor = floor
    · subst ht
      simpa [pressedAt] using (hholds t.floor).enqueue hw t.direction
    · obtain ⟨hup, hdown⟩ := requests_enqueue_of_ne hw (Ne.symm ht)
      have h := hholds floor
      rw [List.filter_cons_of_neg (by simpa using ht), List.filter_nil, List.map_nil,
        List.append_nil]
      constructor
      · rw [hup]; exact h.upHall
      · rw [hdown]; exact h.downHall
      · rw [hup, enqueue_floor]; exact h.upCabin
      · rw [hdown, enqueue_floor]; exact h.downCabin

/-! ### Withdrawal -/

lemma cabin_withdraw (hw : c.WellFormed) {t : Target} (ht : t.direction.isHall = true)
    (floor : Int) :
    ((c.withdraw t).up.requests floor).cabin = (c.up.requests floor).cabin ∧
      ((c.withdraw t).down.requests floor).cabin = (c.down.requests floor).cabin := by
  obtain ⟨f, d⟩ := t
  cases d <;> simp [withdraw, hw.up, hw.down, Direction.isHall] at ht ⊢ <;>
    by_cases hg : floor = f <;> simp [hg]

/-- Taking back landings' requests takes back just these. -/
lemma withdraw_foldl (ts : List Target) (hts : ∀ t ∈ ts, t.direction.isHall = true)
    (hw : c.WellFormed) :
    (ts.foldl Car.withdraw c).WellFormed ∧
      (∀ floor, ((ts.foldl Car.withdraw c).up.requests floor).cabin =
          (c.up.requests floor).cabin ∧
        ((ts.foldl Car.withdraw c).down.requests floor).cabin =
          (c.down.requests floor).cabin) ∧
      ∀ t : Target, (ts.foldl Car.withdraw c).hasHallStop t.floor t.direction = true ↔
        t ∉ ts ∧ c.hasHallStop t.floor t.direction = true := by
  induction ts generalizing c with
  | nil => simpa using hw
  | cons first rest ih =>
    obtain ⟨hfirst, hrest⟩ := List.forall_mem_cons.mp hts
    obtain ⟨hwell, hcabin, hhall⟩ := ih hrest (hw.withdraw first)
    rw [List.foldl_cons]
    refine ⟨hwell, fun floor => ?_, fun t => ?_⟩
    · rw [(hcabin floor).1, (hcabin floor).2]
      exact cabin_withdraw hw hfirst floor
    · rw [hhall, hasHallStop_withdraw hw hfirst, List.mem_cons]
      tauto

/-! ### What is left -/

/-- The floors passengers asked for. -/
def passengerFloors (ts : List Target) : Finset Int :=
  ((ts.filter (·.direction.isIdle)).map (·.floor)).toFinset

lemma mem_pressedAt {ts : List Target} {d : Direction} :
    d ∈ pressedAt floor ts ↔ ⟨floor, d⟩ ∈ ts := by
  unfold pressedAt
  simp only [List.mem_map, List.mem_filter, decide_eq_true_eq]
  constructor
  · rintro ⟨t, ⟨ht, rfl⟩, rfl⟩
    exact ht
  · exact fun ht => ⟨_, ⟨ht, rfl⟩, rfl⟩

lemma mem_passengerFloors {ts : List Target} :
    floor ∈ passengerFloors ts ↔ .idle ∈ pressedAt floor ts := by
  rw [mem_pressedAt]
  unfold passengerFloors
  simp only [List.mem_toFinset, List.mem_map, List.mem_filter, Direction.isIdle, beq_iff_eq]
  constructor
  · rintro ⟨⟨_, _⟩, ⟨ht, rfl⟩, rfl⟩
    exact ht
  · exact fun ht => ⟨_, ⟨ht, rfl⟩, rfl⟩

/-- A floor that sits in both sets counts twice. -/
lemma queuedStops_eq_card (hw : c.WellFormed) : c.snapshot.queuedStops =
    (c.up.floors.toFinset ∪ c.down.floors.toFinset).card +
      (c.up.floors.toFinset ∩ c.down.floors.toFinset).card := by
  have hup : c.up.floors.Nodup := (StopSet.floors_pairwise hw.up).imp ne_of_lt
  have hdown : c.down.floors.Nodup := (StopSet.floors_pairwise hw.down).imp ne_of_lt
  rw [Finset.card_union_add_card_inter, List.toFinset_card_of_nodup hup,
    List.toFinset_card_of_nodup hdown]
  simp [snapshot, Snapshot.queuedStops]

lemma Holds.cabin_either_iff (h : c.Holds floor ds) :
    (c.up.requests floor).cabin = true ∨ (c.down.requests floor).cabin = true ↔ .idle ∈ ds := by
  have hidle : FirstDown c.floor floor ds → .idle ∈ ds := FirstDown.mem
  rw [h.upCabin, h.downCabin]
  tauto

lemma Holds.cabin_both_iff (h : c.Holds floor ds) :
    (c.up.requests floor).cabin = true ∧ (c.down.requests floor).cabin = true ↔
      HeldTwice c.floor floor ds := by
  have hidle : FirstDown c.floor floor ds → .idle ∈ ds := FirstDown.mem
  rw [h.upCabin, h.downCabin]
  unfold HeldTwice
  tauto

lemma mem_floors_of_no_hall {s : StopSet} (hs : s.WellFormed)
    (hhall : ∀ g, (s.requests g).hall = false) :
    floor ∈ s.floors.toFinset ↔ (s.requests floor).cabin = true := by
  rw [List.mem_toFinset, ← StopSet.has_eq_true_iff_mem, StopSet.has_iff_any hs, Requesters.any,
    hhall, Bool.false_or]

/-- A press by a passenger adds a request just if none is there for him, or if he is the first to
join a landing's stop on the way up while others wait on the way down. -/
lemma Holds.lacks_iff (hw : c.WellFormed) (h : c.Holds floor ds) :
    c.lacks ⟨floor, .idle⟩ = true ↔ .idle ∉ ds ∨
      ¬HeldTwice c.floor floor ds ∧ HeldTwice c.floor floor (ds ++ [.idle]) := by
  unfold Car.lacks HeldTwice
  simp only [StopSet.has_iff_any hw.up, up_idle_sublist_concat, true_and]
  cases hup : (c.up.requests floor).any with
  | true =>
    have hpressed : (c.up.requests floor).cabin = false → .up ∈ ds := by
      intro hcabin
      rw [Requesters.any, hcabin, Bool.or_false] at hup
      exact h.upHall.mp hup
    rw [h.firstDown_of_up hup, if_pos rfl, Bool.not_eq_true']
    rw [← Bool.not_eq_true, h.upCabin] at hpressed ⊢
    tauto
  | false =>
    rw [if_neg Bool.false_ne_true, Bool.not_eq_true', ← Bool.not_eq_true, h.downCabin]
    have hnup := h.up_notMem hup
    have hmem : [.up, .idle].Sublist ds → .up ∈ ds := fun hs => hs.mem List.mem_cons_self
    constructor
    · intro hf
      exact .inl fun hidle => hf (h.firstDown_of_idle hup hidle)
    · rintro (hidle | ⟨-, -, hs | hm⟩)
      · exact fun hf => hidle hf.mem
      · exact absurd (hmem hs) hnup
      · exact absurd hm hnup

section
variable {ts : List Target} (hw : c.WellFormed)
  (hholds : ∀ floor, c.Holds floor (pressedAt floor ts))
include hw hholds

/-- Once the landings have taken back what they asked for, no stop is theirs. -/
lemma hasHallStop_withdrawn (floor : Int) (d : Direction) :
    ((ts.filter (·.direction.isHall)).foldl Car.withdraw c).hasHallStop floor d = false := by
  obtain ⟨-, -, hhall⟩ := withdraw_foldl (ts.filter (·.direction.isHall))
    (fun t ht => (List.mem_filter.mp ht).2) hw
  rw [← Bool.not_eq_true]
  intro hheld
  obtain ⟨hkept, hbefore⟩ := (hhall ⟨floor, d⟩).mp hheld
  apply hkept
  cases d with
  | up => simpa [← mem_pressedAt, Direction.isHall] using (hholds floor).upHall.mp hbefore
  | down => simpa [← mem_pressedAt, Direction.isHall] using (hholds floor).downHall.mp hbefore
  | idle => cases hbefore

/-- The stops that are left are where passengers are queued. -/
lemma mem_floors_withdrawn (floor : Int) :
    (floor ∈ ((ts.filter (·.direction.isHall)).foldl Car.withdraw c).up.floors.toFinset ↔
        (c.up.requests floor).cabin = true) ∧
      (floor ∈ ((ts.filter (·.direction.isHall)).foldl Car.withdraw c).down.floors.toFinset ↔
        (c.down.requests floor).cabin = true) := by
  have hnone := hasHallStop_withdrawn hw hholds
  obtain ⟨hleft, hcabin, -⟩ := withdraw_foldl (ts.filter (·.direction.isHall))
    (fun t ht => (List.mem_filter.mp ht).2) hw
  constructor
  · rw [mem_floors_of_no_hall hleft.up fun g => hnone g .up, (hcabin floor).1]
  · rw [mem_floors_of_no_hall hleft.down fun g => hnone g .down, (hcabin floor).2]

end

/-- Passengers' stops outlive the landings': once every landing's request is taken back, a car
that was at rest holds stops for passengers only, and for every floor a passenger asked for. A
floor is counted twice if it is held on both ways, and that is when a passenger's press adds a
request to one that is there already. -/
theorem passengers_kept_on_withdrawal (id : CarId) (start : Int) (ts : List Target) :
    let queued := ts.foldl Car.enqueue (.start id start)
    let left := (ts.filter (·.direction.isHall)).foldl Car.withdraw queued
    (∀ floor, left.hasCabinStop floor = true ↔ floor ∈ passengerFloors ts) ∧
      (∀ floor d, left.hasHallStop floor d = false) ∧
      left.snapshot.queuedStops = (passengerFloors ts).card +
        ((passengerFloors ts).filter fun floor =>
          HeldTwice start floor (pressedAt floor ts)).card ∧
      ∀ floor, queued.lacks ⟨floor, .idle⟩ = true ↔ floor ∉ passengerFloors ts ∨
        ¬HeldTwice start floor (pressedAt floor ts) ∧
          HeldTwice start floor (pressedAt floor ts ++ [.idle]) := by
  intro queued left
  obtain ⟨hqueued, hfloor, hholds⟩ := holds_enqueued id start ts
  obtain ⟨hleft, hcabin, -⟩ := withdraw_foldl (ts.filter (·.direction.isHall))
    (fun t ht => (List.mem_filter.mp ht).2) hqueued
  have hstops := mem_floors_withdrawn hqueued hholds
  refine ⟨fun floor => ?_, hasHallStop_withdrawn hqueued hholds, ?_, fun floor => ?_⟩
  · unfold hasCabinStop
    rw [(hcabin floor).1, (hcabin floor).2, Bool.or_eq_true, (hholds floor).cabin_either_iff,
      mem_passengerFloors]
  · rw [queuedStops_eq_card hleft]
    congr 2
    · ext floor
      rw [Finset.mem_union, (hstops floor).1, (hstops floor).2, (hholds floor).cabin_either_iff,
        mem_passengerFloors]
    · ext floor
      rw [Finset.mem_inter, (hstops floor).1, (hstops floor).2, (hholds floor).cabin_both_iff,
        hfloor, Finset.mem_filter, mem_passengerFloors]
      exact iff_and_self.mpr fun htwice => htwice.1.mem
  · have h := (hholds floor).lacks_iff hqueued
    rw [hfloor] at h
    rw [h, mem_passengerFloors]

/-- Two passengers at floor 5 are bound for floor 3, and in between a landing there wanted up: of
the one floor two stops are left, and the second passenger's press added a request. -/
theorem floor_held_twice :
    let presses : List Target := [⟨3, .idle⟩, ⟨3, .up⟩, ⟨3, .idle⟩]
    let queued := presses.foldl Car.enqueue (.start 1 5)
    let left := (presses.filter (·.direction.isHall)).foldl Car.withdraw queued
    passengerFloors presses = {3} ∧ left.up.floors = [3] ∧ left.down.floors = [3] ∧
      left.snapshot.queuedStops = 2 ∧
      (let before := (presses.take 2).foldl Car.enqueue (.start 1 5)
       before.hasCabinStop 3 = true ∧ before.lacks ⟨3, .idle⟩ = true) := by
  decide

end ElevatorBank.Car
